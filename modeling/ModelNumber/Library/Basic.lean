import ModelNumber.Configuration.Check
import ModelNumber.Configuration.Reader
import ModelNumber.Library.RN
import ModelNumber.Library.RQ
import ModelNumber.Text.LowerCase

/-
  This file defines the loading of configurations: those that
  come with the library, which are kept in a cache once they
  are loaded, and those from documents elsewhere, which are
  not.

  Key definitions include:
    * `Library`
    * `Library.standard`
    * `Loaded`
    * `Cache`
    * `Request`
    * `Library.load`
    * `Library.loadAll`
    * `Library.configuration`
-/

namespace ModelNumber

------------------------------------------------------------
-- Libraries
------------------------------------------------------------

/- The configurations that come with a library, by key. -/
structure Library where
  shipped : List (String × Configuration)

namespace Library

/- The library of the two series of rooftop units. -/
def standard : Library where
  shipped := [("rn", rn), ("rq", rq)]

/- Texts in the order of their code points. -/
private def inOrder (ss : List String) : List String :=
  ss.mergeSort fun s t => !Text.before t.toList s.toList

/- The keys of all shipped configurations, in order. -/
def available (lib : Library) : List String :=
  inOrder (lib.shipped.map Prod.fst)

/- The shipped configuration with a key. -/
def find?
    (lib : Library)
    (key : String) : Option Configuration :=
  lib.shipped.lookup key

end Library

------------------------------------------------------------
-- Cache
------------------------------------------------------------

/-
  A loaded configuration. Each load that does not come from
  the cache has a serial number of its own.
-/
structure Loaded where
  config : Configuration
  serial : Nat

/-
  The loaded configurations by key, and how many have been
  built so far.
-/
structure Cache where
  loaded : OrderedMap String Loaded
  built : Nat

namespace Cache

/- The cache before the first load. -/
def empty : Cache where
  loaded := ∅
  built := 0

instance : EmptyCollection Cache :=
  ⟨empty⟩

/- The keys of all loaded configurations, in order. -/
def keys (cache : Cache) : List String :=
  Library.inOrder cache.loaded.keys

end Cache

------------------------------------------------------------
-- Loading
------------------------------------------------------------

/-
  Where a configuration is taken from: the library, or a file
  elsewhere, which may be missing, have bytes that are no text,
  or hold a text.
-/
inductive Source where
| shipped
| nowhere
| garbled
| document (text : String)
deriving DecidableEq, Repr

/- What is to be loaded, and how. -/
structure Request where
  key : String
  source : Source := .shipped
  forceReload : Bool := false
  validate : Bool := true
deriving DecidableEq, Repr

namespace Library

/- Take a configuration from its source. -/
def fetch
    (lib : Library)
    (key : String) : Source → Except Fault Configuration
| .shipped =>
    match lib.find? key with
    | some config => .ok config
    | none => .error (.unknownModelType key lib.available)
| .nowhere => .error (.unknownModelType key lib.available)
| .garbled => .error (.defect .undecodable)
| .document text => Configuration.ofText text

/- Refuse a configuration that has problems. -/
def checked
    (config : Configuration) : Except Fault Configuration := do
  let problems ← Except.mapError .defect config.check
  if problems.isEmpty then
    return config
  else
    throw (.invalid problems config.key)

/- Build a configuration anew, for a key in lower case. -/
def build
    (lib : Library)
    (key : String)
    (r : Request) : Except Fault Configuration := do
  let config ← lib.fetch key r.source
  if r.validate then checked config else return config

/-
  Load a configuration. Keys are not case-sensitive. A shipped
  configuration is taken from the cache unless a reload is
  forced, and enters the cache when it is built.
-/
def load
    (lib : Library)
    (r : Request)
    (cache : Cache) : Except Fault Loaded × Cache :=
  let key := Text.lower r.key
  let fromCache :=
    if r.source = .shipped && !r.forceReload then
      cache.loaded.get? key
    else
      none
  match fromCache with
  | some loaded => (.ok loaded, cache)
  | none =>
      match lib.build key r with
      | .error fault => (.error fault, cache)
      | .ok config =>
          let loaded : Loaded := ⟨config, cache.built⟩
          let kept :=
            if r.source = .shipped then
              cache.loaded.insert key loaded
            else
              cache.loaded
          (.ok loaded, ⟨kept, cache.built + 1⟩)

/- The cache after several loads, of which any may fail. -/
def loadAll
    (lib : Library)
    (rs : List Request) : Cache :=
  rs.foldl (fun cache r => (lib.load r cache).2) ∅

/- The shipped configuration with a key, checked. -/
def configuration
    (lib : Library)
    (key : String) : Except Fault Configuration :=
  (lib.load { key } ∅).1.map Loaded.config

end Library

end ModelNumber
