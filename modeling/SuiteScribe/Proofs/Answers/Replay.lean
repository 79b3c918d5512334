import SuiteScribe.Proofs.Answers.Supply

namespace SuiteScribe.Interview

/-! An interview is quiet: whatever is answered, none of its remarks is a warning. -/

def Remark.Quiet : Remark → Prop
  | .say _ => True
  | .note notice => notice.level ≠ .warn

def Turn.Quiet (turn : Turn σ α) : Prop :=
  ∀ remark ∈ turn.remarks, remark.Quiet

def Guide.Quiet (guide : Guide σ α) : Prop :=
  ∀ question text, (guide.answer question text).Quiet

namespace Turn

theorem quiet_ask (question : σ) : (ask question : Turn σ α).Quiet :=
  List.forall_mem_nil _

theorem quiet_finish (result : α) : (finish result : Turn σ α).Quiet :=
  List.forall_mem_nil _

theorem quiet_retry (hint : String) (question : σ) : (retry hint question : Turn σ α).Quiet :=
  List.forall_mem_singleton.mpr trivial

theorem Quiet.after {turn : Turn σ α} (h : turn.Quiet) {remarks : List Remark}
    (hremarks : ∀ remark ∈ remarks, remark.Quiet) : (turn.after remarks).Quiet :=
  List.forall_mem_append.mpr ⟨hremarks, h⟩

theorem Quiet.after_say {turn : Turn σ α} (h : turn.Quiet) (text : String) :
    (turn.after [.say text]).Quiet :=
  h.after (List.forall_mem_singleton.mpr trivial)

theorem Quiet.within {turn : Turn σ α} (h : turn.Quiet) {embed : σ → τ}
    {continued : α → Turn τ β} (hcontinued : ∀ result, (continued result).Quiet) :
    (turn.within embed continued).Quiet := by
  rcases turn with ⟨remarks, question | result⟩
  · exact h
  · exact (hcontinued result).after h

end Turn

open Turn

namespace StepQuestion

theorem quiet_fieldRemarks (field : StepField) : ∀ remark ∈ fieldRemarks field, remark.Quiet := by
  cases field with
  | assertion => exact List.forall_mem_singleton.mpr trivial
  | _ => exact List.forall_mem_nil _

theorem quiet_proceed (draft : Draft) : (proceed draft).Quiet := by
  rw [proceed]
  cases draft.encode with
  | ok step => exact List.forall_mem_singleton.mpr nofun
  | error missing => exact (quiet_ask _).after (quiet_fieldRemarks missing)

theorem quiet_askAgain (hint : String) (draft : Draft) (missing : StepField) :
    (askAgain hint draft missing).Quiet :=
  (quiet_ask _).after (List.forall_mem_cons.mpr ⟨trivial, quiet_fieldRemarks missing⟩)

theorem quiet_fallBack (subject : String) (draft : Draft) (statement : String) :
    (fallBack subject draft statement).Quiet := by
  refine (quiet_proceed _).after ?_
  exact List.forall_mem_cons.mpr ⟨nofun, List.forall_mem_singleton.mpr trivial⟩

theorem quiet_chooseAction (options : Options) (description text : String) :
    (chooseAction options description text).Quiet := by
  rw [chooseAction]
  split
  · exact quiet_proceed _
  · exact quiet_retry _ _
  · split
    · exact quiet_retry _ _
    · exact quiet_fallBack _ _ _

theorem quiet_chooseAssertion (options : Options) (draft : Draft) (text : String) :
    (chooseAssertion options draft text).Quiet := by
  rw [chooseAssertion]
  split
  · exact quiet_proceed _
  · exact quiet_askAgain _ _ _
  · split
    · exact quiet_askAgain _ _ _
    · exact quiet_fallBack _ _ _

theorem quiet_unlessEmpty {draft : Draft} {missing : StepField} {text : String}
    {filled : StepTurn} (h : filled.Quiet) : (unlessEmpty draft missing text filled).Quiet := by
  rw [unlessEmpty]
  split
  · exact quiet_askAgain _ _ _
  · exact h

theorem quiet_fillRole (draft : Draft) (text : String) : (fillRole draft text).Quiet := by
  rw [fillRole]
  split
  · exact quiet_proceed _
  · exact quiet_ask _

theorem quiet_fillField (options : Options) (draft : Draft) (missing : StepField)
    (text : String) : (fillField options draft missing text).Quiet := by
  cases missing with
  | assertion => exact quiet_chooseAssertion options draft text
  | targetRole => exact quiet_unlessEmpty (quiet_fillRole draft text)
  | _ => exact quiet_unlessEmpty (quiet_proceed _)

theorem quiet_guide (options : Options) : (guide options).Quiet := by
  intro question text
  cases question with
  | description number =>
      change (answer options (.description number) text).Quiet
      rw [answer]
      split
      · exact quiet_finish _
      · exact (quiet_ask _).after_say _
  | action described => exact quiet_chooseAction options described text
  | field draft missing => exact quiet_fillField options draft missing text
  | accessibleName draft role => exact quiet_proceed _

end StepQuestion

namespace CaseQuestion

theorem quiet_askStep (title objective : String) (done : List Step) :
    (askStep title objective done).Quiet :=
  (quiet_ask _ : (StepQuestion.start _).Quiet).within fun _ => quiet_finish _

theorem quiet_guide (options : Options) : (guide options).Quiet := by
  intro question text
  cases question with
  | title number =>
      change (answer options (.title number) text).Quiet
      rw [answer]
      split
      · exact quiet_finish _
      · exact quiet_ask _
  | objective named =>
      change (answer options (.objective named) text).Quiet
      rw [answer]
      split
      · exact quiet_retry _ _
      · exact quiet_askStep _ _ _
  | step named aim done question =>
      refine (StepQuestion.quiet_guide options question text).within fun result => ?_
      cases result with
      | none => exact quiet_finish _
      | some last => exact quiet_askStep _ _ _

end CaseQuestion

namespace SuiteQuestion

theorem quiet_askCase (suite : Suite) : (askCase suite).Quiet := by
  have hstart : (CaseQuestion.start (suite.testCases.length + 1)).Quiet :=
    (quiet_ask _).after_say _
  exact hstart.within fun _ => quiet_finish _

theorem quiet_askHeader (suite : Suite) (field : HeaderField) : (askHeader suite field).Quiet := by
  refine (quiet_ask _).after ?_
  cases field with
  | category => exact List.forall_mem_singleton.mpr trivial
  | _ => exact List.forall_mem_nil _

theorem quiet_afterField (suite : Suite) (field : HeaderField) :
    (afterField suite field).Quiet := by
  rw [afterField]
  split
  · exact quiet_askHeader _ _
  · exact quiet_askCase _

theorem quiet_chooseCategory (options : Options) (suite : Suite) (text : String) :
    (chooseCategory options suite text).Quiet := by
  rw [chooseCategory]
  split
  · exact quiet_afterField _ _
  · exact quiet_afterField _ _
  · split
    · exact quiet_retry _ _
    · refine (quiet_afterField _ _).after ?_
      exact List.forall_mem_cons.mpr ⟨nofun, List.forall_mem_singleton.mpr trivial⟩

theorem quiet_fillHeader (options : Options) (suite : Suite) (field : HeaderField)
    (text : String) : (fillHeader options suite field text).Quiet := by
  rw [fillHeader.eq_def]
  split
  · exact quiet_chooseCategory _ _ _
  · exact quiet_afterField _ _
  · split
    · exact quiet_retry _ _
    · exact quiet_afterField _ _

theorem quiet_guide (options : Options) : (guide options).Quiet := by
  intro question text
  cases question with
  | header suite field => exact quiet_fillHeader options suite field text
  | case suite question =>
      refine (CaseQuestion.quiet_guide options question text).within fun result => ?_
      cases result with
      | none => exact quiet_finish _
      | some last =>
          refine (quiet_askCase _).after ?_
          exact List.forall_mem_singleton.mpr nofun

theorem quiet_session : session.Quiet :=
  (quiet_askHeader _ _).after_say _

end SuiteQuestion

end SuiteScribe.Interview

namespace SuiteScribe.Replay

open Answers Interview Text

/-! A quiet interview over a replay raises no warning as long as the recorded prompts are those that
it asks. -/

theorem ask_eq_ok {label text : String} {replay next : Replay}
    (asked : Answers.ask label replay = (.ok text, next)) :
    ∃ event, replay.events = event :: next.events ∧ text = trimmed event.answer ∧
      next.journal = replay.journal ++ promptNotices label event := by
  cases hevents : replay.events with
  | nil => simp [Answers.ask, ask, hevents] at asked
  | cons event rest =>
      rcases hprint : replay.outlet.print (label ++ ": " ++ event.answer ++ "\n")
        with ⟨_ | _, outlet⟩
      · simp [Answers.ask, ask, hevents, hprint] at asked
      · simp only [Answers.ask, ask, hevents, hprint, Prod.mk.injEq, Except.ok.injEq] at asked
        obtain ⟨rfl, rfl⟩ := asked
        exact ⟨event, rfl, rfl, rfl⟩

theorem ask_eq_error {label : String} {failure : Failure} {replay next : Replay}
    (asked : Answers.ask label replay = (.error failure, next)) :
    next.journal = replay.journal ∨
      ∃ event rest, replay.events = event :: rest ∧
        next.journal = replay.journal ++ promptNotices label event := by
  cases hevents : replay.events with
  | nil =>
      simp only [Answers.ask, ask, hevents, Prod.mk.injEq] at asked
      obtain ⟨-, rfl⟩ := asked
      exact .inl rfl
  | cons event rest =>
      rcases hprint : replay.outlet.print (label ++ ": " ++ event.answer ++ "\n")
        with ⟨_ | _, outlet⟩
      · simp only [Answers.ask, ask, hevents, hprint, Prod.mk.injEq] at asked
        obtain ⟨-, rfl⟩ := asked
        exact .inr ⟨event, rest, rfl, rfl⟩
      · simp [Answers.ask, ask, hevents, hprint] at asked

theorem journal_say (text : String) (replay : Replay) :
    (Answers.say text replay).2.journal = replay.journal := by
  rcases hprint : replay.outlet.print (text ++ "\n") with ⟨_ | _, outlet⟩ <;>
    simp [Answers.say, say, hprint]

theorem events_remark {remarks : List Interview.Remark} {replay next : Replay}
    {result : Except Failure Unit} (said : remark remarks replay = (result, next)) :
    next.events = replay.events := by
  have hsay : ∀ text (other : Replay), other.events = replay.events →
      (Answers.say text other).2.events = replay.events :=
    fun text other h => (events_say text other).trans h
  have hnote : ∀ notice, .note notice ∈ remarks → ∀ other : Replay,
      other.events = replay.events → (Answers.note notice other).events = replay.events :=
    fun _ _ _ h => h
  have hnext := remark_preserves hsay hnote rfl
  rwa [said] at hnext

def Matched (replay : Replay) : Prop :=
  mismatchNotice ∉ replay.journal

theorem Matched.note {replay : Replay} (h : replay.Matched) {notice : Notice}
    (hnotice : notice.level ≠ .warn) : (Answers.note notice replay).Matched := by
  intro hmem
  rcases List.mem_append.mp hmem with hbefore | hlast
  · exact h hbefore
  · rw [← List.mem_singleton.mp hlast] at hnotice
    exact hnotice rfl

theorem matched_remark {turn : Turn τ α} (hquiet : turn.Quiet) {replay next : Replay}
    (h : replay.Matched) {result : Except Failure Unit}
    (said : remark turn.remarks replay = (result, next)) : next.Matched := by
  have hsay : ∀ text (other : Replay), other.Matched → (Answers.say text other).2.Matched := by
    intro text other hother
    rwa [Matched, journal_say]
  have hnote : ∀ notice, .note notice ∈ turn.remarks → ∀ other : Replay,
      other.Matched → (Answers.note notice other).Matched :=
    fun notice hnotice _ hother => hother.note (hquiet _ hnotice)
  have hnext := remark_preserves hsay hnote h
  rwa [said] at hnext

theorem promptNotices_eq_nil {label : String} {event : Event} (h : event.prompt = label) :
    promptNotices label event = [] := by
  rw [promptNotices, if_pos (by simpa using h)]

/-- Whether or not the output fails, no warning is raised before the recorded prompts differ. -/
theorem matched_converse {guide : Guide τ α} (hguide : guide.Quiet) {turn : Turn τ α}
    (hturn : turn.Quiet) {replay : Replay} (h : replay.Matched)
    (hprompts : replay.events.map (·.prompt) <+:
      (hold guide turn replay.recordedAnswers).prompts) :
    (converse guide turn replay).2.Matched := by
  fun_induction converse guide turn replay with
  | case1 turn replay failure next said => exact matched_remark hturn h said
  | case2 turn replay next said result hnext => exact matched_remark hturn h said
  | case3 turn replay next said question hnext failure rest asked =>
      have hmatched := matched_remark hturn h said
      obtain hjournal | ⟨event, events, hevents, hjournal⟩ := ask_eq_error asked
      · rwa [Matched, hjournal]
      · rw [events_remark said] at hevents
        rw [recordedAnswers, hevents, List.map_cons, List.map_cons, hold_ask_cons guide hnext,
          Held.asked, List.cons_prefix_cons] at hprompts
        rw [Matched, hjournal, promptNotices_eq_nil hprompts.1, List.append_nil]
        exact hmatched
  | case4 turn replay next said question hnext text rest asked ih =>
      have hmatched := matched_remark hturn h said
      obtain ⟨event, hevents, htext, hjournal⟩ := ask_eq_ok asked
      rw [events_remark said] at hevents
      rw [recordedAnswers, hevents, List.map_cons, List.map_cons, hold_ask_cons guide hnext,
        Held.asked, List.cons_prefix_cons, ← htext] at hprompts
      refine ih (hguide question text) ?_ hprompts.2
      rw [Matched, hjournal, promptNotices_eq_nil hprompts.1, List.append_nil]
      exact hmatched

end SuiteScribe.Replay
