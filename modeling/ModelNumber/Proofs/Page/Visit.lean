import ModelNumber.Page.Visit
import ModelNumber.Proofs.Decoding.Steps
import ModelNumber.Proofs.Highlight
import ModelNumber.Proofs.Outcome
import ModelNumber.Proofs.Page.Markup

/-
  A page takes markup as it is in one place only, where marked
  characters are shown. So whatever is typed, and whatever the
  configuration holds, a page has no markup but the boxes with
  their spans.

  Main declarations:
    * `Event.markups` and `Event.DisplaysMarks`
    * `Session.exists_highlightLive`
    * `Session.normalize_eq_ok_liveText`
    * `Visit.displaysMarks_of_decodeTab`
    * `Visit.displaysMarks_of_searchTab`
    * `Visit.displaysMarks_of_referenceTab`
    * `Visit.displaysMarks_of_run`
    * `Visit.displays_and_displaysMarks`
-/

namespace ModelNumber

------------------------------------------------------------
-- Markup on a page
------------------------------------------------------------

namespace Event

mutual

/- The texts that an element takes as markup, as they are. -/
def markups : Event → List String
| .markdown shown true => [shown]
| .tab _ body => markupsOf body
| .expander _ body => markupsOf body
| _ => []

/- The texts that several elements take as markup. -/
def markupsOf : List Event → List String
| [] => []
| e :: es => e.markups ++ markupsOf es

end

/- Several elements take as markup what each of them takes. -/
theorem mem_markupsOf_iff
    {es : List Event}
    {text : String} :
    text ∈ markupsOf es ↔ ∃ e ∈ es, text ∈ e.markups := by
  induction es with
  | nil => simp [markupsOf]
  | cons e es ih => simp [markupsOf, ih]

/- All that an element takes as markup displays marks. -/
def DisplaysMarks (e : Event) : Prop :=
  ∀ text ∈ e.markups, ∃ ms, Markup.Displays ms text.toList

/- Elements that take no markup display nothing but marks. -/
theorem displaysMarks_of_markupsOf_eq_nil
    {es : List Event}
    (hNone : markupsOf es = []) :
    ∀ e ∈ es, e.DisplaysMarks := by
  intro e he text hText
  have hMem := mem_markupsOf_iff.mpr ⟨e, he, hText⟩
  rw [hNone] at hMem
  cases hMem

/- An element that takes no markup displays nothing but marks. -/
theorem displaysMarks_of_markups_eq_nil
    {e : Event}
    (hNone : e.markups = []) :
    e.DisplaysMarks := by
  intro text hText
  rw [hNone] at hText
  cases hText

/- What holds of all elements of a body holds of their markup. -/
theorem exists_displays_of_mem_markupsOf
    {es : List Event}
    (hAll : ∀ e ∈ es, e.DisplaysMarks)
    {text : String}
    (hText : text ∈ markupsOf es) :
    ∃ ms, Markup.Displays ms text.toList := by
  rcases mem_markupsOf_iff.mp hText with ⟨e, he, hMarkup⟩
  exact hAll e he text hMarkup

/- A tab takes the markup of its body. -/
theorem displaysMarks_tab
    {label : String}
    {body : List Event}
    (hBody : ∀ e ∈ body, e.DisplaysMarks) :
    (Event.tab label body).DisplaysMarks := by
  intro text hText
  rw [markups] at hText
  exact exists_displays_of_mem_markupsOf hBody hText

/- An expander takes the markup of its body. -/
theorem displaysMarks_expander
    {label : String}
    {body : List Event}
    (hBody : ∀ e ∈ body, e.DisplaysMarks) :
    (Event.expander label body).DisplaysMarks := by
  intro text hText
  rw [markups] at hText
  exact exists_displays_of_mem_markupsOf hBody hText

end Event

------------------------------------------------------------
-- Live highlighting
------------------------------------------------------------

namespace Session

/-
  The text that live highlighting marks: the normal form of
  what was decoded, which is nothing before the first decoding.
-/
def liveText
    (session : Session)
    (given : Option Decoding) : List Char :=
  match given <|> session.last with
  | some d => d.normalized.toList
  | none => []

/- Live highlighting marks its text, for all categories. -/
theorem exists_highlightLive
    (session : Session)
    (keys : List Scalar)
    (given : Option Decoding) :
    ∃ ms,
      session.highlightLive (keys.map Json.scalar) given =
          .ok ms ∧
        ms.map Mark.char = session.liveText given := by
  rw [highlightLive, liveText]
  cases (given <|> session.last) with
  | none => exact ⟨[], rfl, rfl⟩
  | some d =>
      exact
        ⟨_, Highlight.render_keys _ _ keys,
          Highlight.marks_map_char _ _ keys⟩

/- After a text is decoded, its normal form is marked. -/
theorem normalize_eq_ok_liveText
    {config : Configuration}
    {options : Options}
    {text : String}
    {d : Decoding}
    (hd : config.decode options text = .ok d)
    (session : Session) :
    options.normalize text =
      .ok (String.ofList (session.liveText (some d))) := by
  rcases Configuration.decode_eq_ok_iff.mp hd with
    ⟨split, keyed, hSteps⟩
  change _ = Except.ok (String.ofList d.normalized.toList)
  rw [String.ofList_toList]
  exact hSteps.normalize_eq_ok

end Session

------------------------------------------------------------
-- Elements
------------------------------------------------------------

namespace Visit

open Event

variable {v after : Visit} {input : VisitorInput}
variable {d : Decoding} {es : List Event} {e : Event}

/- Marked characters are displayed as they are. -/
theorem displaysMarks_markElement
    (ms : List Mark) :
    (markElement ms).DisplaysMarks := by
  intro text hText
  rw [markElement, markups, List.mem_singleton] at hText
  rw [hText]
  exact ⟨ms, Markup.displays_render ms⟩

/- Attributes take no markup. -/
theorem markups_of_mem_attributeElements
    (he : e ∈ attributeElements d) :
    e.markups = [] := by
  simp only [attributeElements, List.mem_append] at he
  rcases he with hTable | hCount
  · split at hTable
    · cases hTable
    · rw [List.mem_singleton.mp hTable]
      rfl
  · split at hCount
    · cases hCount
    · rw [List.mem_singleton.mp hCount]
      rfl

/- Warnings and notes take no markup. -/
theorem markups_of_mem_validationElements
    (hElements : validationElements d = .ok es)
    (he : e ∈ es) :
    e.markups = [] := by
  rw [validationElements] at hElements
  split at hElements
  · cases hElements
    rw [List.mem_singleton.mp he]
    rfl
  · rcases Outcome.exists_of_mem_result hElements he with
      ⟨w, _, hElement⟩
    rw [warningElement, Outcome.bind_eq_ok_iff] at hElement
    rcases hElement with ⟨categories, _, hElement⟩
    rw [← Outcome.pure_eq_ok_iff.mp hElement]
    rfl

/- Notices stand in an expander and take no markup. -/
theorem displaysMarks_of_mem_noticeElements
    (he : e ∈ noticeElements d) :
    e.DisplaysMarks := by
  rw [noticeElements] at he
  split at he
  · cases he
  · rw [List.mem_singleton.mp he]
    apply displaysMarks_expander
    intro inner hInner
    rcases List.mem_map.mp hInner with ⟨n, _, rfl⟩
    exact displaysMarks_of_markups_eq_nil rfl

/- A download takes no markup. -/
theorem markups_of_downloadElement
    (hElement : downloadElement d = .ok e) :
    e.markups = [] := by
  rw [downloadElement, Outcome.bind_eq_ok_iff] at hElement
  rcases hElement with ⟨text, _, hElement⟩
  rw [← Outcome.pure_eq_ok_iff.mp hElement]
  rfl

------------------------------------------------------------
-- Tabs
------------------------------------------------------------

/- A decoding is shown with the markup of its marks only. -/
theorem displaysMarks_of_decodingElements
    (hElements : v.decodingElements input = .ok (es, after)) :
    ∀ e ∈ es, e.DisplaysMarks := by
  rw [decodingElements, Outcome.bind_eq_ok_iff] at hElements
  rcases hElements with ⟨⟨d, session⟩, _, hElements⟩
  simp only [Outcome.bind_eq_ok_iff, Outcome.pure_eq_ok_iff,
    Prod.mk.injEq] at hElements
  rcases hElements with
    ⟨live, _, fixed, _, validation, hValidation, download,
      hDownload, rfl, _⟩
  intro e he
  simp only [List.mem_append, List.mem_cons, List.not_mem_nil,
    or_false] at he
  rcases he with
    (((hAttribute | hMarks) | hWarning) | hNotice) | rfl
  · exact
      displaysMarks_of_markups_eq_nil
        (markups_of_mem_attributeElements hAttribute)
  · rcases hMarks with rfl | rfl | rfl | rfl
    · exact displaysMarks_of_markups_eq_nil rfl
    · exact displaysMarks_markElement live
    · exact displaysMarks_markElement fixed
    · exact displaysMarks_of_markups_eq_nil rfl
  · exact
      displaysMarks_of_markups_eq_nil
        (markups_of_mem_validationElements hValidation hWarning)
  · exact displaysMarks_of_mem_noticeElements hNotice
  · exact
      displaysMarks_of_markups_eq_nil
        (markups_of_downloadElement hDownload)

/- The tab for typing takes the markup of marks only. -/
theorem displaysMarks_of_decodeTab
    (hTab : v.decodeTab input = .ok (es, after)) :
    ∀ e ∈ es, e.DisplaysMarks := by
  simp only [decodeTab] at hTab
  split at hTab
  · cases hTab
    exact displaysMarks_of_markupsOf_eq_nil rfl
  · rw [Outcome.bind_eq_ok_iff] at hTab
    rcases hTab with ⟨⟨inner, _⟩, hInner, hTab⟩
    cases hTab
    rw [List.forall_mem_cons]
    exact
      ⟨displaysMarks_of_markups_eq_nil rfl,
        displaysMarks_of_decodingElements hInner⟩

/- The codes that were found take the markup of marks only. -/
theorem displaysMarks_of_matchElements
    {ms : List Match}
    (hElements : v.matchElements ms = .ok es) :
    ∀ e ∈ es, e.DisplaysMarks := by
  simp only [matchElements] at hElements
  split at hElements
  · cases hElements
    exact displaysMarks_of_markupsOf_eq_nil rfl
  · simp only [Outcome.bind_eq_ok_iff, Outcome.pure_eq_ok_iff]
      at hElements
    rcases hElements with ⟨categories, _, marks, _, rfl⟩
    rw [List.forall_mem_cons, List.forall_mem_cons,
      List.forall_mem_singleton]
    exact
      ⟨displaysMarks_of_markups_eq_nil rfl,
        displaysMarks_of_markups_eq_nil rfl,
        displaysMarks_markElement marks⟩

/- The tab for searching takes the markup of marks only. -/
theorem displaysMarks_of_searchTab
    (hTab : v.searchTab input = .ok (es, after)) :
    ∀ e ∈ es, e.DisplaysMarks := by
  simp only [searchTab] at hTab
  split at hTab
  · cases hTab
    exact displaysMarks_of_markupsOf_eq_nil rfl
  · rw [Outcome.bind_eq_ok_iff] at hTab
    rcases hTab with ⟨⟨found, next⟩, _, hTab⟩
    cases found with
    | none =>
        cases hTab
        exact displaysMarks_of_markupsOf_eq_nil rfl
    | some ms =>
        simp only [Outcome.bind_eq_ok_iff] at hTab
        rcases hTab with ⟨inner, hInner, hTab⟩
        cases hTab
        rw [List.forall_mem_cons]
        exact
          ⟨displaysMarks_of_markups_eq_nil rfl,
            displaysMarks_of_matchElements hInner⟩

/- A category is shown with the markup of its marks only. -/
theorem displaysMarks_of_categoryElement
    {entry : NavigationEntry}
    (hElement : v.categoryElement entry = .ok e) :
    e.DisplaysMarks := by
  simp only [categoryElement, Outcome.bind_eq_ok_iff,
    Outcome.pure_eq_ok_iff] at hElement
  rcases hElement with ⟨key, _, marks, _, rfl⟩
  apply displaysMarks_expander
  rw [List.forall_mem_cons]
  refine ⟨displaysMarks_markElement marks, ?_⟩
  intro inner hInner
  rcases Option.map_eq_some_iff.mp (Option.mem_toList.mp hInner)
    with ⟨c, _, rfl⟩
  exact displaysMarks_of_markups_eq_nil rfl

/- The tab with all categories takes the markup of marks only. -/
theorem displaysMarks_of_referenceTab
    (hTab : v.referenceTab = .ok es) :
    ∀ e ∈ es, e.DisplaysMarks := by
  intro e he
  rcases Outcome.exists_of_mem_result hTab he with
    ⟨entry, _, hElement⟩
  rw [navigationElement] at hElement
  split at hElement
  · cases hElement
    exact displaysMarks_of_markups_eq_nil rfl
  · exact displaysMarks_of_categoryElement hElement

------------------------------------------------------------
-- The page
------------------------------------------------------------

/- The page below the choice takes the markup of marks only. -/
theorem displaysMarks_of_body
    (hBody : v.body input = .ok (es, after)) :
    ∀ e ∈ es, e.DisplaysMarks := by
  simp only [body, Outcome.bind_eq_ok_iff] at hBody
  rcases hBody with
    ⟨⟨decoding, _⟩, hDecode, ⟨searching, _⟩, hSearch, reference,
      hReference, hBody⟩
  cases hBody
  refine
    List.forall_mem_append.mpr
      ⟨displaysMarks_of_markupsOf_eq_nil rfl, ?_⟩
  rw [List.forall_mem_cons, List.forall_mem_cons,
    List.forall_mem_singleton]
  have hListed := displaysMarks_of_referenceTab hReference
  exact
    ⟨displaysMarks_tab (displaysMarks_of_decodeTab hDecode),
      displaysMarks_tab (displaysMarks_of_searchTab hSearch),
      displaysMarks_tab hListed⟩

/- What is shown in a pass over the page. -/
def Pass.events : Pass → List Event
| .settled es _ => es
| .restarted es _ => es

/- A pass over the page takes the markup of marks only. -/
theorem displaysMarks_of_pass
    {lib : Library}
    {p : Pass}
    (hPass : v.pass lib input = .ok p) :
    ∀ e ∈ p.events, e.DisplaysMarks := by
  simp only [pass] at hPass
  split at hPass
  · rw [Outcome.bind_eq_ok_iff] at hPass
    rcases hPass with ⟨⟨inner, _⟩, hInner, hPass⟩
    rw [Outcome.mapError_eq_ok_iff] at hInner
    cases hPass
    rw [Pass.events, List.forall_mem_append]
    exact
      ⟨displaysMarks_of_markupsOf_eq_nil rfl,
        displaysMarks_of_body hInner⟩
  · rw [Outcome.bind_eq_ok_iff] at hPass
    rcases hPass with ⟨session, _, hPass⟩
    cases hPass
    exact displaysMarks_of_markupsOf_eq_nil rfl

/- A page takes the markup of marks only, whatever is typed. -/
theorem displaysMarks_of_run
    {lib : Library}
    (hRun : v.run lib input = .ok (es, after)) :
    ∀ e ∈ es, e.DisplaysMarks := by
  rw [run, Outcome.bind_eq_ok_iff] at hRun
  rcases hRun with ⟨p, hFirst, hRun⟩
  have hShown := displaysMarks_of_pass hFirst
  cases p with
  | settled shown _ =>
      cases hRun
      exact hShown
  | restarted shown next =>
      -- What the first pass has shown stays on the page.
      simp only [Outcome.bind_eq_ok_iff] at hRun
      rcases hRun with ⟨q, hSecond, hRun⟩
      have hLater := displaysMarks_of_pass hSecond
      cases q with
      | settled later _ =>
          cases hRun
          exact List.forall_mem_append.mpr ⟨hShown, hLater⟩
      | restarted later _ =>
          cases hRun
          exact List.forall_mem_append.mpr ⟨hShown, hLater⟩

/-
  Typed text stays text. Marks of any characters are displayed,
  those of live highlighting among them, whichever decoding and
  categories they are for. Reading them back gives the text
  that is highlighted, which is the normal form of what was
  typed. Marks that look the same have the same characters and
  kinds. A page takes no other markup.
-/
theorem displays_and_displaysMarks :
    (∀ ms : List Mark,
        Markup.Displays ms (Markup.render ms).toList) ∧
      (∀ (session : Session) (keys : List Scalar)
          (given : Option Decoding),
        ∃ ms,
          session.highlightLive (keys.map Json.scalar) given =
              .ok ms ∧
            Markup.Displays ms (Markup.render ms).toList ∧
            Markup.unescape
                (Markup.untagged (Markup.render ms).toList) =
              session.liveText given) ∧
      (∀ (config : Configuration) (options : Options)
          (text : String) (d : Decoding),
        config.decode options text = .ok d →
          ∀ session : Session,
            options.normalize text =
              .ok (String.ofList (session.liveText (some d)))) ∧
      (∀ ms ns : List Mark,
        Markup.render ms = Markup.render ns ↔
          ms.map Mark.char = ns.map Mark.char ∧
            ms.map Mark.kind = ns.map Mark.kind) ∧
      ∀ (lib : Library) (v : Visit) (input : VisitorInput)
          (es : List Event) (after : Visit),
        v.run lib input = .ok (es, after) →
          ∀ e ∈ es, e.DisplaysMarks := by
  refine
    ⟨Markup.displays_render, ?_,
      fun _ _ _ _ hd session =>
        session.normalize_eq_ok_liveText hd,
      fun _ _ => Markup.render_eq_render_iff,
      fun _ _ _ _ _ hRun => displaysMarks_of_run hRun⟩
  intro session keys given
  rcases session.exists_highlightLive keys given with
    ⟨ms, hMarks, hText⟩
  have hDisplays := Markup.displays_render ms
  exact
    ⟨ms, hMarks, hDisplays, hDisplays.characters.trans hText⟩

/- What is entered by a visitor who types and highlights. -/
def typing
    (text : String)
    (keys : List Scalar) : VisitorInput where
  modelType := none
  text := text
  query := ""
  highlight := some keys
  typedMeanwhile := []

/- What looks like a tag is typed on a fresh page. -/
theorem displays_and_displaysMarks_rn :
    ∃ d v es after ms,
      Library.rn.decode {} "<b>&\"'" = .ok d ∧
        start ⟨[("rn", Library.rn)]⟩ = .ok v ∧
        v.run ⟨[("rn", Library.rn)]⟩
            (typing "<b>&\"'" ["GEN"]) =
          .ok (es, after) ∧
        (Event.markupsOf es).head? = some (Markup.render ms) ∧
        ms.map Mark.char = ['<', 'B', '>', '&', '"', '\''] ∧
        Markup.Displays ms (Markup.render ms).toList ∧
        ({} : Options).normalize "<b>&\"'" =
          .ok (String.ofList (v.session.liveText (some d))) ∧
        ∀ e ∈ es, e.DisplaysMarks := by
  let lib : Library := ⟨[("rn", Library.rn)]⟩
  let input := typing "<b>&\"'" ["GEN"]
  let ms : List Mark :=
    [⟨0, '<', .highlighted⟩, ⟨1, 'B', .highlighted⟩,
      ⟨2, '>', .highlighted⟩, ⟨3, '&', .highlighted⟩,
      ⟨4, '"', .highlighted⟩, ⟨5, '\'', .highlighted⟩]
  have hDecode :
      (Library.rn.decode {} "<b>&\"'").isOk = true := by
    decide +kernel
  have hPage :
      (start lib >>= fun v => v.run lib input).toOption.map
          (fun r => (Event.markupsOf r.1).head?) =
        some (some (Markup.render ms)) := by
    decide +kernel
  rcases Outcome.exists_eq_ok_of_isOk hDecode with ⟨d, hd⟩
  rcases Option.map_eq_some_iff.mp hPage with
    ⟨⟨es, after⟩, hRun, hFirst⟩
  rcases Outcome.bind_eq_ok_iff.mp
      (Outcome.toOption_eq_some_iff.mp hRun) with
    ⟨v, hStart, hEvents⟩
  rcases displays_and_displaysMarks with
    ⟨hMarks, _, hTyped, _, hAll⟩
  exact
    ⟨d, v, es, after, ms, hd, hStart, hEvents, hFirst, rfl,
      hMarks ms, hTyped Library.rn {} _ d hd v.session,
      hAll lib v input es after hEvents⟩

end Visit

end ModelNumber
