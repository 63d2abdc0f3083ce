import ModelNumber.Session
import ModelNumber.Proofs.Library

/-
  What a session shows is never stale: the active
  configuration is the one of the last switch that succeeded,
  and the latest decoding is the one of the last decode that
  succeeded since then.

  Main declarations:
    * `Session.Answers` and `Session.answers_answer`
    * `Session.Recalls` and `Session.Reflects`
    * `Session.Reflects.step`
    * `Session.IsConsistent`
    * `Session.isConsistent_run`
-/

namespace ModelNumber

namespace Session

variable {lib : Library} {options : Options}
variable {config : Configuration}
variable {s later : Session} {r : Request}
variable {outcome : Except Fault Answer}
variable {e : Event} {events since : List Event}
variable {last : Option Decoding}

------------------------------------------------------------
-- Answers
------------------------------------------------------------

/-
  A program that first computes something from the session
  fails with it, or goes on in the same session.
-/
theorem run_reading
    {α β : Type}
    (read : Session → Except Fault α)
    (next : α → Program β)
    (s : Session) :
    Id.run
        ((do next (← (read (← get) : Program α))).run.run s) =
      match read s with
      | .error fault => (.error fault, s)
      | .ok a => Id.run ((next a).run.run s) := by
  have hRead :
      ∀ outcome : Except Fault α,
        Id.run
            (((liftM outcome : Program α) >>= next).run.run s) =
          match outcome with
          | .error fault => (.error fault, s)
          | .ok a => Id.run ((next a).run.run s) := by
    intro outcome
    cases outcome with
    | error fault => rfl
    | ok a => rfl
  exact hRead (read s)

/-
  What can come of a request, and the session then: a decode
  and a switch succeed or fail, and the other requests are
  answered from the session as it is.
-/
inductive Answers
    (lib : Library)
    (s : Session) :
    Request → Except Fault Answer → Session → Prop
| decoded
    {text : String}
    {d : Decoding}
    (hDecode : s.config.decode s.options text = .ok d) :
    Answers lib s (.decode text) (.ok (.decoded d))
      { s with last := some d }
| undecoded
    {text : String}
    {defect : Defect}
    (hDecode : s.config.decode s.options text = .error defect) :
    Answers lib s (.decode text) (.error (.defect defect)) s
| switched
    {key : String}
    {config : Configuration}
    (hConfig : lib.configuration key = .ok config) :
    Answers lib s (.switch key) (.ok (.switched config))
      { s with config, last := none }
| unswitched
    {key : String}
    {fault : Fault}
    (hConfig : lib.configuration key = .error fault) :
    Answers lib s (.switch key) (.error fault) s
| searched
    {query : String} :
    Answers lib s (.search query)
      ((Except.mapError .defect (s.search query)).map .found) s
| highlighted
    {categories : List Json}
    {text : Option String} :
    Answers lib s (.highlight categories text)
      ((Except.mapError .defect
        (s.highlight categories text)).map .marked) s
| live
    {categories : List Json}
    {given : Option Decoding} :
    Answers lib s (.highlightLive categories given)
      ((Except.mapError .defect
        (s.highlightLive categories given)).map .marked) s

/- A decode keeps what it returns. -/
theorem answer_decode
    (lib : Library)
    (s : Session)
    (text : String) :
    s.answer lib (.decode text) =
      match s.config.decode s.options text with
      | .error defect => (.error (.defect defect), s)
      | .ok d => (.ok (.decoded d), { s with last := some d }) := by
  refine
    (run_reading
      (fun s => Except.mapError .defect (s.decode text))
      _ s).trans ?_
  rw [Session.decode]
  cases s.config.decode s.options text with
  | error defect => rfl
  | ok d => rfl

/- A switch discards the latest decoding. -/
theorem answer_switch
    (lib : Library)
    (s : Session)
    (key : String) :
    s.answer lib (.switch key) =
      match lib.configuration key with
      | .error fault => (.error fault, s)
      | .ok config =>
          (.ok (.switched config),
            { s with config, last := none }) := by
  refine
    (run_reading (fun s => s.switch lib key) _ s).trans ?_
  rw [Session.switch]
  cases lib.configuration key with
  | error fault => rfl
  | ok config => rfl

/-
  A request that only reads the session is answered from it,
  and leaves it.
-/
theorem run_asking
    {α : Type}
    (read : Session → Except Defect α)
    (label : α → Answer)
    (s : Session) :
    Id.run
        ((do
          let a ← (Except.mapError Fault.defect (read (← get)) :
            Program α)
          return label a : Program Answer).run.run s) =
      ((Except.mapError Fault.defect (read s)).map label, s) := by
  refine
    (run_reading
      (fun s => Except.mapError Fault.defect (read s))
      _ s).trans ?_
  cases read s with
  | error defect => rfl
  | ok a => rfl

/- Requests are answered in just these ways. -/
theorem answers_answer
    (lib : Library)
    (s : Session)
    (r : Request) :
    Answers lib s r (s.answer lib r).1 (s.answer lib r).2 := by
  cases r with
  | decode text =>
      rw [answer_decode]
      cases hDecode : s.config.decode s.options text with
      | error defect => exact .undecoded hDecode
      | ok d => exact .decoded hDecode
  | switch key =>
      rw [answer_switch]
      cases hConfig : lib.configuration key with
      | error fault => exact .unswitched hConfig
      | ok config => exact .switched hConfig
  | search query =>
      have hAnswer :
          s.answer lib (.search query) = _ :=
        run_asking (fun s => s.search query) .found s
      rw [hAnswer]
      exact .searched
  | highlight categories text =>
      have hAnswer :
          s.answer lib (.highlight categories text) = _ :=
        run_asking (fun s => s.highlight categories text)
          .marked s
      rw [hAnswer]
      exact .highlighted
  | highlightLive categories given =>
      have hAnswer :
          s.answer lib (.highlightLive categories given) = _ :=
        run_asking (fun s => s.highlightLive categories given)
          .marked s
      rw [hAnswer]
      exact .live

------------------------------------------------------------
-- Transcripts
------------------------------------------------------------

/- The transcript with one more request. -/
theorem transcript_concat
    (lib : Library)
    (s : Session)
    (rs : List Request)
    (r : Request) :
    s.transcript lib (rs ++ [r]) =
      s.transcript lib rs ++
        [(r, ((s.run lib rs).answer lib r).1)] := by
  induction rs generalizing s with
  | nil => rfl
  | cons q rs ih =>
      simp only [List.cons_append, transcript, ih]
      rfl

/- The session after one more request. -/
theorem run_concat
    (lib : Library)
    (s : Session)
    (rs : List Request)
    (r : Request) :
    s.run lib (rs ++ [r]) =
      ((s.run lib rs).answer lib r).2 :=
  List.foldl_concat ..

/- A decode that succeeded. -/
def Decodes (e : Event) : Prop :=
  ∃ text answer, e = (.decode text, .ok answer)

/- A switch that succeeded. -/
def Switches (e : Event) : Prop :=
  ∃ key answer, e = (.switch key, .ok answer)

/- A request that only asks. -/
def Request.IsQuestion : Request → Prop
| .decode _ => False
| .switch _ => False
| _ => True

------------------------------------------------------------
-- The latest decoding
------------------------------------------------------------

/-
  A decoding is recalled from what happened while one
  configuration was active: there is none iff no decode
  succeeded, and otherwise it is the one of the last decode
  that did.
-/
structure Recalls
    (config : Configuration)
    (options : Options)
    (since : List Event)
    (last : Option Decoding) : Prop where
  none_iff : last = none ↔ ∀ e ∈ since, ¬Decodes e
  latest : ∀ d,
    last = some d →
      ∃ before text after,
        since =
            before ++ (.decode text, .ok (.decoded d)) :: after ∧
          config.decode options text = .ok d ∧
            ∀ e ∈ after, ¬Decodes e

/- Nothing is recalled where nothing happened. -/
theorem recalls_nil : Recalls config options [] none where
  none_iff := by simp
  latest _ h := by cases h

/- What is recalled does not change unless a decode succeeds. -/
theorem Recalls.concat
    (hRecalls : Recalls config options since last)
    (he : ¬Decodes e) :
    Recalls config options (since ++ [e]) last where
  none_iff := by
    rw [hRecalls.none_iff, List.forall_mem_append,
      List.forall_mem_singleton]
    exact (and_iff_left he).symm
  latest d hd := by
    rcases hRecalls.latest d hd with
      ⟨before, text, after, rfl, hDecode, hAfter⟩
    refine ⟨before, text, after ++ [e], ?_, hDecode, ?_⟩
    · rw [List.append_assoc, List.cons_append]
    · rw [List.forall_mem_append, List.forall_mem_singleton]
      exact ⟨hAfter, he⟩

/- A decode that succeeds is recalled. -/
theorem recalls_decoded
    {text : String}
    {d : Decoding}
    (hDecode : config.decode options text = .ok d)
    (since : List Event) :
    Recalls config options
      (since ++ [(.decode text, .ok (.decoded d))])
      (some d) where
  none_iff := by
    constructor
    · intro h
      cases h
    · intro hNever
      rw [List.forall_mem_append, List.forall_mem_singleton]
        at hNever
      exact absurd ⟨text, .decoded d, rfl⟩ hNever.2
  latest e he := by
    cases he
    refine ⟨since, text, [], rfl, hDecode, ?_⟩
    intro e he
    cases he

------------------------------------------------------------
-- The active configuration
------------------------------------------------------------

/-
  A session reflects what happened: its configuration is the
  one of the last switch that succeeded, and its latest
  decoding is recalled from what happened since then.
-/
structure Reflects
    (lib : Library)
    (options : Options)
    (events : List Event)
    (s : Session) : Prop where
  options_eq : s.options = options
  active :
    ∃ before key since,
      events =
          before ++ (.switch key, .ok (.switched s.config)) ::
            since ∧
        lib.configuration key = .ok s.config ∧
        (∀ e ∈ since, ¬Switches e) ∧
        Recalls s.config options since s.last

/- A switch that succeeds starts from nothing. -/
theorem reflects_switched
    {key : String}
    (hConfig : lib.configuration key = .ok config)
    (events : List Event) :
    Reflects lib options
      (events ++ [(.switch key, .ok (.switched config))])
      { options, config, last := none } where
  options_eq := rfl
  active := by
    refine ⟨events, key, [], rfl, hConfig, ?_, recalls_nil⟩
    intro e he
    cases he

/-
  What happens without a switch that succeeds is reflected in
  a session if its latest decoding is recalled from it.
-/
theorem Reflects.concat
    (hReflects : Reflects lib options events s)
    (he : ¬Switches e)
    (hRecalls : ∀ since,
      Recalls s.config options since s.last →
        Recalls s.config options (since ++ [e]) last) :
    Reflects lib options (events ++ [e]) { s with last } where
  options_eq := hReflects.options_eq
  active := by
    rcases hReflects.active with
      ⟨before, key, since, rfl, hConfig, hSince, hRecallsSince⟩
    refine
      ⟨before, key, since ++ [e], ?_, hConfig, ?_,
        hRecalls since hRecallsSince⟩
    · rw [List.append_assoc, List.cons_append]
    · rw [List.forall_mem_append, List.forall_mem_singleton]
      exact ⟨hSince, he⟩

/-
  What neither decodes nor switches leaves a session that
  reflects what happened.
-/
theorem Reflects.concat_of_idle
    (hReflects : Reflects lib options events s)
    (hDecodes : ¬Decodes e)
    (hSwitches : ¬Switches e) :
    Reflects lib options (events ++ [e]) s :=
  hReflects.concat hSwitches fun _ hRecalls =>
    hRecalls.concat hDecodes

/- Every request leaves a session that reflects what happened. -/
theorem Reflects.step
    (hReflects : Reflects lib options events s)
    (hAnswers : Answers lib s r outcome later) :
    Reflects lib options (events ++ [(r, outcome)]) later := by
  cases hAnswers with
  | @decoded text d hDecode =>
      rw [hReflects.options_eq] at hDecode
      apply hReflects.concat
      · simp [Switches]
      · intro since _
        exact recalls_decoded hDecode since
  | switched hConfig =>
      rw [hReflects.options_eq]
      exact reflects_switched hConfig events
  | undecoded =>
      apply hReflects.concat_of_idle
      · simp [Decodes]
      · simp [Switches]
  | unswitched =>
      apply hReflects.concat_of_idle
      · simp [Decodes]
      · simp [Switches]
  | searched =>
      apply hReflects.concat_of_idle
      · simp [Decodes]
      · simp [Switches]
  | highlighted =>
      apply hReflects.concat_of_idle
      · simp [Decodes]
      · simp [Switches]
  | live =>
      apply hReflects.concat_of_idle
      · simp [Decodes]
      · simp [Switches]

/- The start of a session counts as its first switch. -/
theorem reflects_start
    {modelType : String}
    (hStart : start lib modelType options = .ok s) :
    Reflects lib options
      [(.switch modelType, .ok (.switched s.config))] s := by
  rcases Outcome.bind_eq_ok_iff.mp hStart with
    ⟨config, hConfig, hReturn⟩
  cases hReturn
  exact reflects_switched hConfig []

/- Whatever is asked, the session reflects what happened. -/
theorem Reflects.run
    (hReflects : Reflects lib options events s)
    (rs : List Request) :
    Reflects lib options (events ++ s.transcript lib rs)
      (s.run lib rs) := by
  induction rs using List.reverseRecOn with
  | nil =>
      rw [transcript, List.append_nil]
      exact hReflects
  | append_singleton rs r ih =>
      rw [transcript_concat, run_concat, ← List.append_assoc]
      exact ih.step (answers_answer lib _ r)

------------------------------------------------------------
-- Consistency
------------------------------------------------------------

/-
  After some events, a session is consistent: it reflects
  them; requests that fail and those that only ask leave it as
  it is; and where no decoding is given, the latest one is
  highlighted, and nothing if there is none.
-/
structure IsConsistent
    (lib : Library)
    (options : Options)
    (events : List Event)
    (s : Session) : Prop where
  reflects : Reflects lib options events s
  failed : ∀ r fault,
    (s.answer lib r).1 = .error fault →
      (s.answer lib r).2 = s
  asked : ∀ r,
    r.IsQuestion → (s.answer lib r).2 = s
  blank :
    s.last = none →
      ∀ categories,
        (s.answer lib (.highlightLive categories none)).1 =
          .ok (.marked [])
  live : ∀ d,
    s.last = some d →
      ∀ categories,
        (s.answer lib (.highlightLive categories none)).1 =
          (Except.mapError .defect
            (Highlight.render d.normalized
              (.ofAttributes d.attributes) categories)).map
            .marked

/- A request that fails leaves the session. -/
theorem Answers.eq_of_error
    (hAnswers : Answers lib s r outcome later)
    {fault : Fault}
    (hError : outcome = .error fault) :
    later = s := by
  cases hAnswers with
  | decoded => cases hError
  | switched => cases hError
  | undecoded => rfl
  | unswitched => rfl
  | searched => rfl
  | highlighted => rfl
  | live => rfl

/- A question leaves the session. -/
theorem Answers.eq_of_isQuestion
    (hAnswers : Answers lib s r outcome later)
    (hQuestion : r.IsQuestion) :
    later = s := by
  cases hAnswers with
  | decoded => cases hQuestion
  | undecoded => cases hQuestion
  | switched => cases hQuestion
  | unswitched => cases hQuestion
  | searched => rfl
  | highlighted => rfl
  | live => rfl

/- What live highlighting answers. -/
theorem Answers.eq_marked
    {categories : List Json}
    {given : Option Decoding}
    (hAnswers :
      Answers lib s (.highlightLive categories given) outcome
        later) :
    outcome =
      (Except.mapError .defect
        (s.highlightLive categories given)).map .marked := by
  cases hAnswers with
  | live => rfl

/-
  Whatever is asked of a session once it is started, it stays
  consistent with all that happened.
-/
theorem isConsistent_run
    {modelType : String}
    (hStart : start lib modelType options = .ok s)
    (rs : List Request) :
    IsConsistent lib options
      ((.switch modelType, .ok (.switched s.config)) ::
        s.transcript lib rs)
      (s.run lib rs) where
  reflects := (reflects_start hStart).run rs
  failed r _ hError :=
    (answers_answer lib _ r).eq_of_error hError
  asked r hQuestion :=
    (answers_answer lib _ r).eq_of_isQuestion hQuestion
  blank hNone categories := by
    rw [(answers_answer lib _ _).eq_marked, highlightLive, hNone]
    rfl
  live d hd categories := by
    rw [(answers_answer lib _ _).eq_marked, highlightLive, hd]
    rfl

/- The two series, where the airflow of one RN unit is missing. -/
def libraryWithGap : Library where
  shipped :=
    [("rn",
      { Library.rn with
        tables :=
          .obj
            [("nominal_airflow", Library.table [("007", [])]),
              ("voltage_rating", Library.rnVoltages),
              ("electric_heat_kw", Library.rnElectricHeat),
              ("gas_heat_mbh", Library.rnGasHeat)] }),
      ("rq", Library.rq)]

/- Requests of all kinds, of which a decode and a switch fail. -/
def severalRequests : List Request :=
  [.decode "rn-025",
    .decode "rn-007",
    .switch "zz",
    .search " ",
    .highlightLive ["SIZE"] none,
    .switch "RQ",
    .highlightLive ["SIZE"] none,
    .decode "rq-004",
    .highlight ["SIZE"] none]

/-
  The requests leave the RQ series active, with the decoding
  that succeeded in it.
-/
theorem isConsistent_severalRequests :
    ∃ s,
      start libraryWithGap "RN" {} = .ok s ∧
        IsConsistent libraryWithGap {}
          ((.switch "RN", .ok (.switched s.config)) ::
            s.transcript libraryWithGap severalRequests)
          (s.run libraryWithGap severalRequests) ∧
        (s.transcript libraryWithGap severalRequests).map
            (fun e => e.2.toOption.isSome) =
          [true, false, false, true, true, true, true, true,
            true] ∧
        (s.run libraryWithGap severalRequests).config.key =
          .str "rq" ∧
        (s.run libraryWithGap severalRequests).last.map
            Decoding.normalized =
          some "RQ-004" := by
  have hShown :
      (start libraryWithGap "RN" {}).toOption.map
          (fun s =>
            ((s.transcript libraryWithGap
                severalRequests).map
              (fun e => e.2.toOption.isSome),
              (s.run libraryWithGap
                severalRequests).config.key,
              (s.run libraryWithGap
                severalRequests).last.map
                Decoding.normalized)) =
        some
          ([true, false, false, true, true, true, true, true,
            true], .str "rq", some "RQ-004") := by
    decide +kernel
  rcases Option.map_eq_some_iff.mp hShown with
    ⟨s, hSome, hAll⟩
  have hStart := Outcome.toOption_eq_some_iff.mp hSome
  simp only [Prod.mk.injEq] at hAll
  exact
    ⟨s, hStart, isConsistent_run hStart severalRequests, hAll⟩

end Session

end ModelNumber
