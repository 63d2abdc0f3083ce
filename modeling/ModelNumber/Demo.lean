import ModelNumber.Report.Export
import ModelNumber.Report.Listing
import ModelNumber.Session

/-
  This file defines two demonstrations: a session in which a
  model number is typed bit by bit, and the export of several
  model numbers.

  Key definitions include:
    * `Demo.typingSession`
    * `Demo.exports`
-/

namespace ModelNumber

namespace Demo

/- A line across the screen. -/
private def rule (c : Char) : String :=
  String.ofList (List.replicate 80 c)

/- A heading between two lines. -/
private def heading (title : String) : List String :=
  [rule '=', "  " ++ title, rule '=']

/- A heading after an empty line. -/
private def laterHeading (title : String) : List String :=
  "" :: heading title

------------------------------------------------------------
-- A typing session
------------------------------------------------------------

/- The model number that is typed. -/
private def typedNumber : String :=
  "RN-006-1-0-G-A-0-E-0-6:C-5-A-0-2"

/- The lengths at which typing pauses. -/
private def pauses : List Nat :=
  [2, 6, 10, 22, typedNumber.length]

/- How much of a model number has been entered. -/
private def status (d : Decoding) : String :=
  if d.isComplete then
    "complete"
  else
    toString d.attributes.length ++ "/"
      ++ toString d.expectedSegments

/- Decode what is typed at each pause. -/
private def typing
    (s : Session) : List Nat →
      Except Defect (List String × Session)
| [] => .ok ([], s)
| n :: rest => do
    let text := String.ofList (typedNumber.toList.take n)
    let (d, s) ← s.decode text
    let listing ← d.listing
    let (lines, s) ← typing s rest
    return (["", Text.quoted d.normalized ++ " (" ++ status d
      ++ ")"] ++ listing ++ lines, s)

/- A text with the markers of some categories below it. -/
private def underlined
    (label text : String)
    (ms : List Mark) : List String :=
  [Text.padRight 11 label ++ text,
    Text.padRight 11 "" ++ Highlight.markerLine ms "^"]

/- Highlight some categories in both ways. -/
private def highlighting
    (s : Session) : Except Defect (List String) := do
  let categories : List Json := ["VOLTAGE", "B1", "B3"]
  let fixed ← s.highlight categories none
  let live ← s.highlightLive categories none
  let typed := (s.last.map Decoding.normalized).getD ""
  return [""]
    ++ underlined "Reference:" s.config.referenceString.shown fixed
    ++ underlined "Live:" typed live

/- The line of a match. -/
private def matchLine (m : Match) : Except Defect String := do
  let position ← Listing.cell 5 m.position
  let code ← Listing.cell 4 m.code
  return "  " ++ position ++ " " ++ code ++ " "
    ++ m.description.shown

/- Search for a query. -/
private def searching
    (s : Session)
    (query : String) : Except Defect (List String) := do
  let ms ← s.search query
  let lines ← ms.mapM matchLine
  return ["", Text.quoted query ++ ": " ++ toString ms.length
    ++ " matches"] ++ lines

/- The part of the session in the first model type. -/
private def firstHalf
    (s : Session) : Except Defect (List String × Session) := do
  let (typed, s) ← typing s pauses
  let highlighted ← highlighting s
  let searches ←
    ["economizer", "merv 13", ""].mapM (searching s)
  return (heading "TYPING REPLAY" ++ typed
    ++ laterHeading "HIGHLIGHTING" ++ highlighted
    ++ laterHeading "REVERSE SEARCH" ++ searches.flatten, s)

/- The part of the session in the second model type. -/
private def secondHalf
    (s : Session) : Except Defect (List String) := do
  let (d, _) ← s.decode s.config.referenceString.shown
  return laterHeading "MODEL TYPE SWITCH"
    ++ ["", "Active: " ++ s.config.title.shown]
    ++ (← d.listing)

/- A model number is typed, highlighted, searched and left. -/
def typingSession
    (lib : Library) : Except Fault (List String) := do
  let s ← Session.start lib "rn" {}
  let (first, s) ← Except.mapError .defect (firstHalf s)
  let s ← s.switch lib "rq"
  let second ← Except.mapError .defect (secondHalf s)
  return first ++ second

------------------------------------------------------------
-- Exports
------------------------------------------------------------

/- Titles, model types and model numbers to export. -/
private def exampleNumbers :
    List (String × String × String) :=
  [("RN reference unit", "rn",
      "RN-025-3-0-E-A-0-G-0-4:A-3-A-0-1"),
    ("RN electric heat at 208V", "rn", "RN-025-8-0-E-A-0-E-0-4"),
    ("RN single phase conflict", "rn", "RN-025-1-0-E-A-0-E-0-5"),
    ("RQ reference unit", "rq", "RQ-004-8-0-E-G-0-2:A-0-1"),
    ("Partial entry", "rn", "RN-040-4")]

/- Decode a model number of a model type. -/
private def decoded
    (lib : Library)
    (modelType number : String) : Except Fault Decoding := do
  let config ← lib.configuration modelType
  Except.mapError .defect (config.decode {} number)

/- The export of one model number. -/
private def exportLines
    (lib : Library)
    (title modelType number : String) :
    Except Fault (List String) := do
  let d ← decoded lib modelType number
  let text ← Except.mapError .defect (d.toText true true)
  return ["", title, rule '-', "Input: " ++ number, "",
    "JSON Output:", text]

/- The line of an exported attribute. -/
private def fieldLine
    (f : String × Json) : Except Defect String := do
  let code ← f.2.required "code"
  let description ← f.2.required "description"
  return "  " ++ Text.padRight 30 f.1 ++ ": "
    ++ (← Listing.cell 4 code) ++ " " ++ description.shown

/- The fields of an exported model number. -/
private def fieldLines
    (d : Decoding) : Except Defect (List String) := do
  let document ← d.toDocument false
  let attributes ← document.required "Attributes"
  (← attributes.fields).mapM fieldLine

/- Several model numbers are exported. -/
def exports (lib : Library) : Except Fault (List String) := do
  let documents ← exampleNumbers.mapM fun e =>
    exportLines lib e.1 e.2.1 e.2.2
  let number := "RN-025-3-0-E-A-0-G-0-4:A-3-A-0-1"
  let d ← decoded lib "rn" number
  let fields ← Except.mapError .defect (fieldLines d)
  return heading "CLEAN JSON OUTPUT DEMO" ++ documents.flatten
    ++ [""] ++ laterHeading "DICTIONARY FORMAT EXAMPLE"
    ++ ["", "Model Number: " ++ number, "", "Decoded Fields:"]
    ++ fields

end Demo

end ModelNumber
