import ModelNumber.Decoding.Basic
import ModelNumber.Highlight
import ModelNumber.Library.Basic
import ModelNumber.ReverseSearch

/-
  This file defines a session: the active model type and the
  latest decoding in it. Switching to another model type
  discards the latest decoding, and a request that fails
  changes nothing.

  Key definitions include:
    * `Session`
    * `Session.start`
    * `Session.switch`
    * `Session.decode`
    * `Session.search`
    * `Session.highlight`
    * `Session.highlightLive`
    * `Session.serve`
    * `Session.answer`
    * `Session.run`
    * `Session.transcript`
-/

namespace ModelNumber

/- The active configuration and the latest decoding. -/
structure Session where
  options : Options
  config : Configuration
  last : Option Decoding

namespace Session

------------------------------------------------------------
-- Operations
------------------------------------------------------------

/- A session with a model type and nothing decoded. -/
def start
    (lib : Library)
    (modelType : String)
    (options : Options) : Except Fault Session := do
  let config ← lib.configuration modelType
  return { options, config, last := none }

/- Activate another model type. -/
def switch
    (s : Session)
    (lib : Library)
    (modelType : String) : Except Fault Session := do
  let config ← lib.configuration modelType
  return { s with config, last := none }

/- Decode a typed model number. -/
def decode
    (s : Session)
    (text : String) : Except Defect (Decoding × Session) := do
  let d ← s.config.decode s.options text
  return (d, { s with last := some d })

/- Search the active catalog. -/
def search
    (s : Session)
    (query : String) : Except Defect (List Match) :=
  s.config.catalog.search query

/-
  Highlight categories by the position map, in a text or else
  in the reference string.
-/
def highlight
    (s : Session)
    (categories : List Json)
    (text : Option String) : Except Defect (List Mark) :=
  let shown : Json :=
    match text with
    | some text => text
    | none => s.config.referenceString
  Highlight.renderValue shown s.config.positions categories

/-
  Highlight categories where they stand in a decoding, which
  is the latest one unless another is given.
-/
def highlightLive
    (s : Session)
    (categories : List Json)
    (given : Option Decoding) : Except Defect (List Mark) :=
  match given <|> s.last with
  | some d =>
      Highlight.render d.normalized
        (.ofAttributes d.attributes) categories
  | none => .ok []

------------------------------------------------------------
-- Requests
------------------------------------------------------------

/- What can be asked of a session. -/
inductive Request where
| decode (text : String)
| switch (modelType : String)
| search (query : String)
| highlight (categories : List Json) (text : Option String)
| highlightLive
    (categories : List Json) (given : Option Decoding)

/- What a session answers. -/
inductive Answer where
| decoded (d : Decoding)
| switched (config : Configuration)
| found (ms : List Match)
| marked (ms : List Mark)

/-
  A program on a session. What it assigns before it fails
  stays assigned.
-/
abbrev Program (α : Type) : Type :=
  ExceptT Fault (StateM Session) α

/- The program that answers a request. -/
def serve (lib : Library) : Request → Program Answer
| .decode text => do
    let s ← get
    let (d, s) ← Except.mapError Fault.defect (s.decode text)
    set s
    return .decoded d
| .switch modelType => do
    let s ← get
    let s ← s.switch lib modelType
    set s
    return .switched s.config
| .search query => do
    let s ← get
    let ms ← Except.mapError Fault.defect (s.search query)
    return .found ms
| .highlight categories text => do
    let s ← get
    let ms ← Except.mapError Fault.defect
      (s.highlight categories text)
    return .marked ms
| .highlightLive categories given => do
    let s ← get
    let ms ← Except.mapError Fault.defect
      (s.highlightLive categories given)
    return .marked ms

/- The answer to a request, or its failure, and the session then. -/
def answer
    (lib : Library)
    (s : Session)
    (r : Request) : Except Fault Answer × Session :=
  Id.run ((serve lib r).run.run s)

/- The session after several requests. -/
def run
    (lib : Library)
    (s : Session)
    (rs : List Request) : Session :=
  rs.foldl (fun s r => (s.answer lib r).2) s

/- What happened in a session: requests and what came of them. -/
abbrev Event : Type :=
  Request × Except Fault Answer

/- What happens in a session in the course of several requests. -/
def transcript
    (lib : Library) : Session → List Request → List Event
| _, [] => []
| s, r :: rs =>
    let (answer, s) := s.answer lib r
    (r, answer) :: s.transcript lib rs

end Session

end ModelNumber
