import ModelNumber.Json.Defect
import ModelNumber.Text.Blank
import ModelNumber.Text.UpperCase

/-
  This file defines the options of a decode and the normal
  form of a typed model number: plain hyphens for all dashes,
  capital letters, and no blanks around it.

  Key definitions include:
    * `Options`
    * `Options.dashes`
    * `Text.normal`
    * `Options.normalize`
-/

namespace ModelNumber

/-
  What a decode does. The dash characters become plain
  hyphens, and each other option switches one step on or off.
-/
structure Options where
  dashCharacters : List String :=
    ["\u2010", "\u2011", "\u2013", "\u2014", "\u2212"]
  uppercase : Bool := true
  enhance : Bool := true
  validate : Bool := true
  reportUnknown : Bool := true
deriving DecidableEq, Repr

/- The only character of a text. -/
def onlyChar (s : String) : Except Defect Char :=
  match s.toList with
  | [c] => .ok c
  | _ => .error .mistyped

namespace Options

/- The dashes, each of which has to be a single character. -/
def dashes (o : Options) : Except Defect (List Char) :=
  o.dashCharacters.mapM onlyChar

end Options

/- The normal form of a text, for a choice of dashes and case. -/
def Text.normal
    (dashes : List Char)
    (uppercase : Bool)
    (s : List Char) : List Char :=
  let hyphened :=
    s.map fun c => if dashes.contains c then '-' else c
  let cased :=
    if uppercase then
      CaseMap.upperCase.apply hyphened
    else
      hyphened
  Text.trim cased

/- The normal form of a typed model number. -/
def Options.normalize
    (o : Options)
    (text : String) : Except Defect String := do
  let dashes ← o.dashes
  return String.ofList
    (Text.normal dashes o.uppercase text.toList)

end ModelNumber
