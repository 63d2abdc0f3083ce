import ModelNumber.Debouncer
import ModelNumber.Page.Event
import ModelNumber.Page.Markup
import ModelNumber.Report.Export
import ModelNumber.Report.Row
import ModelNumber.Session
import ModelNumber.Text.UpperCase

/-
  This file defines the page of the decoder: what a visitor
  sees after each input, and what the visit remembers.

  Key definitions include:
    * `Visit`
    * `Visit.start`
    * `VisitorInput`
    * `Visit.decodeTab`
    * `Visit.searchTab`
    * `Visit.referenceTab`
    * `Visit.run`
-/

namespace ModelNumber

------------------------------------------------------------
-- Visits
------------------------------------------------------------

/-
  What lasts through a visit: the session, the search gate
  with its clock, and the categories chosen for highlighting.
-/
structure Visit where
  session : Session
  scene : Debouncer.Scene Float
  selected : List Scalar

/-
  What the visitor has entered: a model type and a choice of
  categories, if made, the two texts, and the queries typed
  while a search waits.
-/
structure VisitorInput where
  modelType : Option String
  text : String
  query : String
  highlight : Option (List Scalar)
  typedMeanwhile : List String

namespace Visit

/- The model type that a visit starts with. -/
def defaultModelType : String :=
  "rn"

/- How long a search waits for further typing, in seconds. -/
def searchDelay : Float :=
  0.3

/- A visit at its start. -/
def start (lib : Library) : Except Fault Visit := do
  let session ← Session.start lib defaultModelType {}
  return {
    session
    scene :=
      { gate := .fresh searchDelay 0.0
        clock := 0.0
        scans := 0 }
    selected := [] }

------------------------------------------------------------
-- Elements
------------------------------------------------------------

/- Marked characters as an element. -/
def markElement (ms : List Mark) : Event :=
  .markdown (Markup.render ms) true

/- Rows as a table. The first row names the columns. -/
private def tableElement (rows : List Row) : Event :=
  .dataframe ((rows.head?.getD []).map Prod.fst)
    (rows.map fun row => row.map Prod.snd)

/- The cells of a match. -/
private def matchRow (m : Match) : Row :=
  [("category", m.category), ("code", m.code),
    ("position", m.position), ("name", m.name),
    ("description", m.description)]

------------------------------------------------------------
-- Decode tab
------------------------------------------------------------

/- A warning or note with its categories and hint. -/
def warningElement
    (w : Warning) : Except Defect Event := do
  let categories ← Decoding.joinedCategories w
  let style : TextStyle :=
    if w.isWarning then .warning else .info
  return .text style
    ("**" ++ w.message.shown ++ "** (" ++ categories ++ ")  \n"
      ++ w.hint.shown)

/- The warnings and notes, or the news that there are none. -/
def validationElements
    (d : Decoding) : Except Defect (List Event) :=
  if d.warnings.isEmpty then
    .ok [.text .success "No dependency issues found"]
  else
    d.warnings.mapM warningElement

/- The notices in an expander, if there are any. -/
def noticeElements (d : Decoding) : List Event :=
  if d.notices.isEmpty then
    []
  else
    [.expander
      ("Notices (" ++ toString d.notices.length ++ ")")
      (d.notices.map fun n =>
        .text .write ("`" ++ n.code ++ "` " ++ n.message))]

/- The export of a decoding as a download. -/
def downloadElement
    (d : Decoding) : Except Defect Event := do
  let file :=
    if d.normalized.isEmpty then "model" else d.normalized
  return .downloadButton "Download JSON"
    (← d.toText true true) (file ++ ".json") "application/json"

/- The attributes, and how many there should be. -/
def attributeElements (d : Decoding) : List Event :=
  let rows := d.attributeRows
  let table := if rows.isEmpty then [] else [tableElement rows]
  let count :=
    if d.isComplete then
      []
    else
      [.text .caption
        (toString d.attributes.length ++ " of "
          ++ toString d.expectedSegments ++ " segments entered")]
  table ++ count

/- The choice of categories, given what was chosen before. -/
private def chosen
    (input : VisitorInput)
    (options default : List Scalar) : List Scalar :=
  match input.highlight with
  | some wanted => options.filter fun c => wanted.any (· == c)
  | none => default

/- A decoding with all that is shown of it. -/
def decodingElements
    (v : Visit)
    (input : VisitorInput) :
    Except Defect (List Event × Visit) := do
  let (d, session) ← v.session.decode input.text
  let categories := d.attributes.map Attribute.category
  let default := v.selected.filter fun c =>
    categories.any (· == c)
  let selected := chosen input categories default
  let names := selected.map Json.scalar
  let live ← session.highlightLive names (some d)
  let fixed ← session.highlight names none
  let validation ← validationElements d
  let download ← downloadElement d
  return (attributeElements d
      ++ [.multiselect "Highlight" categories default,
        markElement live, markElement fixed,
        .markdown "### Validation" false]
      ++ validation ++ noticeElements d ++ [download],
    { v with session, selected })

/- The tab for typing a model number. -/
def decodeTab
    (v : Visit)
    (input : VisitorInput) :
    Except Defect (List Event × Visit) := do
  let field : Event := .textInput "Model Number"
    v.session.config.referenceString.shown
  if input.text.isEmpty then
    return ([field,
      .text .info "Enter a model number to decode it."], v)
  else
    let (events, v) ← v.decodingElements input
    return (field :: events, v)

------------------------------------------------------------
-- Search tab
------------------------------------------------------------

/- Search while the visitor goes on typing. -/
private def searchMeanwhile
    (v : Visit)
    (input : VisitorInput) :
    Except Defect (Option (List Match) × Visit) := do
  let during := input.typedMeanwhile.map Debouncer.Act.submit
  let (reply, scene) ← Debouncer.Scene.run
    v.session.config.catalog
    (.search input.query (during ++ [.elapse])) v.scene
  let found :=
    match reply with
    | .searched _ found _ => found
    | _ => none
  return (found, { v with scene })

/- The codes that were found, and where they stand. -/
def matchElements
    (v : Visit)
    (ms : List Match) : Except Defect (List Event) := do
  let count : Event := .text .caption
    (toString ms.length ++ " matches")
  if ms.isEmpty then
    return [count]
  else
    let categories ←
      (CodeSet.ofList (ms.map Match.category)).sorted
    let marks ← v.session.highlight
      (categories.map Json.scalar) none
    return [count, tableElement (ms.map matchRow),
      markElement marks]

/- The tab for searching codes by what they mean. -/
def searchTab
    (v : Visit)
    (input : VisitorInput) :
    Except Defect (List Event × Visit) := do
  let field : Event := .textInput "Search descriptions"
    "e.g. gas, MERV 13, economizer"
  if (Text.trim input.query.toList).isEmpty then
    return ([field], v)
  else
    let (found, v) ← v.searchMeanwhile input
    match found with
    | none => return ([field], v)
    | some ms => return (field :: (← v.matchElements ms), v)

------------------------------------------------------------
-- Reference tab
------------------------------------------------------------

/- The codes of a category as a table. -/
private def codeTable (c : Category) : Event :=
  tableElement (c.codes.entries.map fun e =>
    [("Code", .scalar e.1), ("Description", e.2)])

/- A category of the reference list. -/
def categoryElement
    (v : Visit)
    (entry : NavigationEntry) : Except Defect Event := do
  let definition :=
    v.session.config.catalog.get? (← entry.category.key)
  let position :=
    match definition with
    | some c => " (" ++ c.position.shown ++ ")"
    | none => ""
  let indent := if entry.indent then "\u2003" else ""
  let marks ← v.session.highlight [entry.category] none
  return .expander (indent ++ entry.name.shown ++ position)
    (markElement marks :: (definition.map codeTable).toList)

/- A line of the reference list. -/
def navigationElement
    (v : Visit)
    (entry : NavigationEntry) : Except Defect Event :=
  match entry.category with
  | .null =>
      .ok (.markdown ("#### " ++ entry.name.shown) false)
  | _ => v.categoryElement entry

/- The tab with all categories and codes. -/
def referenceTab (v : Visit) : Except Defect (List Event) :=
  v.session.config.navigation.mapM v.navigationElement

------------------------------------------------------------
-- The page
------------------------------------------------------------

/- The page below the choice of the model type. -/
def body
    (v : Visit)
    (input : VisitorInput) :
    Except Defect (List Event × Visit) := do
  let config := v.session.config
  let side : List Event :=
    [.text .caption config.title.shown,
      .markdown "**Reference**" false,
      .text .code config.referenceString.shown,
      .tabs ["Decode", "Search", "Reference"]]
  let (decoding, v) ← v.decodeTab input
  let (searching, v) ← v.searchTab input
  let reference ← v.referenceTab
  return (side ++ [.tab "Decode" decoding, .tab "Search" searching,
    .tab "Reference" reference], v)

/- How a pass over the page ends. -/
inductive Pass where
| settled (events : List Event) (v : Visit)
| restarted (events : List Event) (v : Visit)

/- The place of the active model type among all. -/
private def activeIndex
    (v : Visit)
    (modelTypes : List String) : Nat :=
  (modelTypes.findIdx? fun key =>
    v.session.config.key.same (.str key)).getD 0

/-
  Show the page once. Choosing another model type ends the
  pass and starts the page over.
-/
def pass
    (lib : Library)
    (v : Visit)
    (input : VisitorInput) : Except Fault Pass := do
  let modelTypes := lib.available
  let index := v.activeIndex modelTypes
  let head : List Event :=
    [.pageConfig "Model Number Decoder" "wide",
      .text .title "Model Number Decoder",
      .selectbox "Model Type" (modelTypes.map Text.upper) index]
  let choice :=
    input.modelType.getD ((modelTypes[index]?).getD "")
  if v.session.config.key.same (.str choice) then
    let (events, v) ← Except.mapError .defect (v.body input)
    return .settled (head ++ events) v
  else
    let session ← v.session.switch lib choice
    return .restarted (head ++ [.rerun])
      { v with session, selected := [] }

/-
  Show the page until it settles. A pass that starts the page
  over has activated the chosen model type, so that the next
  one settles.
-/
def run
    (lib : Library)
    (v : Visit)
    (input : VisitorInput) :
    Except Fault (List Event × Visit) := do
  match ← v.pass lib input with
  | .settled events v => return (events, v)
  | .restarted first v =>
      match ← v.pass lib input with
      | .settled events v => return (first ++ events, v)
      | .restarted events v => return (first ++ events, v)

end Visit

end ModelNumber
