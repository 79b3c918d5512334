import SuiteScribe.Proofs.Answers.Recorder
import SuiteScribe.Proofs.Answers.Replay
import SuiteScribe.Proofs.Command.World
import SuiteScribe.Proofs.Interview.Soundness

namespace SuiteScribe.Command

open Answers Interview Text

/-! A session that was recorded can be replayed from its transcript. -/

theorem map_entry_eq {first second : List Event}
    (hseq : first.map (·.seq) = second.map (·.seq))
    (hprompt : first.map (·.prompt) = second.map (·.prompt))
    (hanswer : first.map (·.answer) = second.map (·.answer)) :
    first.map Event.entry = second.map Event.entry := by
  induction first generalizing second with
  | nil =>
      cases second with
      | nil => rfl
      | cons event second => cases hseq
  | cons event first ih =>
      cases second with
      | nil => cases hseq
      | cons other second =>
          simp only [List.map_cons, List.cons.injEq] at hseq hprompt hanswer ⊢
          refine ⟨?_, ih hseq.2 hprompt.2 hanswer.2⟩
          rw [Event.entry, hseq.1, hprompt.1, hanswer.1, Event.entry]

theorem numbered_unique {first second : List Event} (hfirst : Recorder.Numbered first)
    (hsecond : Recorder.Numbered second) (hlength : first.length = second.length) :
    first.map (·.seq) = second.map (·.seq) := by
  rw [hfirst, hsecond, hlength]

/-- The interview of a settled recording, held over the recorded answers. -/
theorem recorded_hold [Answers σ] (options : Options) (source : σ) (clock : Nat → Nat)
    (h : Settled (collectSuite options ({ source, clock } : Recorder σ)).1) :
    let original : Recorder σ := { source, clock }
    let recorded := collectSuite options original
    let held := hold (SuiteQuestion.guide options) SuiteQuestion.session
      (recorded.2.events.map (·.answer))
    held.outcome (SuiteQuestion.guide options) = recorded.1 ∧ held.left = [] ∧
      held.prompts = prompts (SuiteQuestion.guide options) SuiteQuestion.session original ∧
      held.prompts = recorded.2.events.map (·.prompt) ++ unanswered recorded.1 := by
  intro original recorded
  obtain ⟨added, hadded, houtcome, hleft, hheld, hprompts⟩ :=
    Recorder.converse_eq_hold (SuiteQuestion.guide options) SuiteQuestion.session original h
  have hevents : recorded.2.events = added := hadded
  rw [hevents]
  exact ⟨houtcome, hleft, hheld, hheld.trans hprompts⟩

/-- What is recorded while a replay goes through to its last event. -/
theorem rerecorded_answers (options : Options) (replay : Replay) (clock : Nat → Nat)
    (hwhole : ¬ Broken (collectSuite options replay).1)
    (hleft : (hold (SuiteQuestion.guide options) SuiteQuestion.session
      replay.recordedAnswers).left = []) :
    let recorded := collectSuite options ({ source := replay, clock } : Recorder Replay)
    recorded.1 = (collectSuite options replay).1 ∧
      recorded.2.events.map (·.answer) = replay.recordedAnswers.map trimmed := by
  intro recorded
  have hmirror : recorded.1 = (collectSuite options replay).1 :=
    (congrArg Prod.fst (Recorder.mirrors_source.converse (SuiteQuestion.guide options)
      SuiteQuestion.session ({ source := replay, clock } : Recorder Replay))).symm
  have hoffers : (Recorder.supply (Replay.supply True)
      (replay.recordedAnswers.map trimmed)).offers { source := replay, clock }
      replay.recordedAnswers := ⟨⟨.inr trivial, rfl⟩, rfl⟩
  obtain hbroken | ⟨-, -, -, hanswers⟩ :=
    Supply.converse_eq_hold _ (SuiteQuestion.guide options) SuiteQuestion.session hoffers
  · have hrecorded : Broken recorded.1 := hbroken.2
    rw [hmirror] at hrecorded
    exact absurd hrecorded hwhole
  · refine ⟨hmirror, ?_⟩
    rwa [hleft, List.map_nil, List.append_nil] at hanswers

/-- Whatever source a session was recorded around, its transcript is loaded as it was recorded. A
replay of these events, unless its own output fails, asks the same prompts and comes to the same end
with every event used up. Recorded once more it gives the same transcript but for the times, and the
files that are written after it are the same but for the line that holds their time. -/
theorem replay_reproduces [Answers σ] (settings : Settings) (source : σ) (clock again : Nat → Nat)
    (outlet : Outlet) (path : String) :
    let original : Recorder σ := { source, clock }
    let recorded := collectSuite settings.options original
    let replay : Replay := { events := recorded.2.events, outlet }
    let replayed := collectSuite settings.options replay
    let rerecorded :=
      collectSuite settings.options ({ source := replay, clock := again } : Recorder Replay)
    Transcript.load path (encode (Transcript.fileText recorded.2.events)) =
        .ok recorded.2.events ∧
      (Settled recorded.1 → ¬ Broken replayed.1 →
        replayed.1 = recorded.1 ∧
        prompts (SuiteQuestion.guide settings.options) SuiteQuestion.session replay =
          prompts (SuiteQuestion.guide settings.options) SuiteQuestion.session original ∧
        Replay.mismatchNotice ∉ replayed.2.journal ∧
        replayed.2.events = [] ∧
        rerecorded.2.events.map Event.entry = recorded.2.events.map Event.entry ∧
        ∀ (generatedAt later : Int) (world : World),
          World.run (runSession settings generatedAt replay) world =
            World.run (runSession settings generatedAt original) world ∧
          (World.run (runSession settings later replay) world).1 =
            (World.run (runSession settings generatedAt original) world).1 ∧
          TreesSameButTime later generatedAt
            (World.run (runSession settings later replay) world).2.tree
            (World.run (runSession settings generatedAt original) world).2.tree) := by
  intro original recorded replay replayed rerecorded
  have hkept : Recorder.Kept recorded.2.events := Recorder.kept_converse _ _ source clock
  refine ⟨Transcript.load_fileText path hkept.fits, fun hsettled hwhole => ?_⟩
  obtain ⟨houtcome, hleft, hprompts, hevents⟩ :=
    recorded_hold settings.options source clock hsettled
  -- The replay supplies the recorded answers.
  have hreplay : replay.recordedAnswers = recorded.2.events.map (·.answer) := rfl
  obtain ⟨hresult, hasked, -, hused⟩ :=
    ((Replay.supply True).converse_eq_hold (SuiteQuestion.guide settings.options)
      SuiteQuestion.session ⟨.inr trivial, hreplay⟩).resolve_left fun hbroken => hwhole hbroken.2
  have hsame : replayed.1 = recorded.1 := hresult.trans houtcome
  have hempty : replayed.2.events = [] := List.map_eq_nil_iff.mp (hused.trans hleft)
  have hmatched : Replay.mismatchNotice ∉ replayed.2.journal :=
    Replay.matched_converse (SuiteQuestion.quiet_guide _) SuiteQuestion.quiet_session
      List.not_mem_nil ⟨_, hevents.symm⟩
  -- Inside another recorder it supplies them as well.
  have hagain : rerecorded.2.events.map Event.entry = recorded.2.events.map Event.entry := by
    have hkeptAgain : Recorder.Kept rerecorded.2.events := Recorder.kept_converse _ _ replay again
    obtain ⟨hresultAgain, htrimmed⟩ :=
      rerecorded_answers settings.options replay again hwhole hleft
    have hanswers : rerecorded.2.events.map (·.answer) = recorded.2.events.map (·.answer) := by
      rw [htrimmed, hreplay, List.map_map]
      exact List.map_congr_left hkept.answers
    have hboth : rerecorded.1 = recorded.1 := hresultAgain.trans hsame
    obtain ⟨-, -, -, heventsAgain⟩ :=
      recorded_hold settings.options replay again (hboth ▸ hsettled)
    have hpromptsAgain : rerecorded.2.events.map (·.prompt) =
        recorded.2.events.map (·.prompt) := by
      rw [hanswers, hevents, hboth] at heventsAgain
      exact (List.append_cancel_right heventsAgain).symm
    have hlength : rerecorded.2.events.length = recorded.2.events.length := by
      simpa using congrArg List.length hanswers
    exact map_entry_eq (numbered_unique hkeptAgain.numbered hkept.numbered hlength)
      hpromptsAgain hanswers
  refine ⟨hsame, hasked.trans hprompts, hmatched, hempty, hagain, ?_⟩
  intro generatedAt later world
  have hrun : ∀ time, World.run (runSession settings time replay) world =
      World.run (runSession settings time original) world := fun time =>
    run_runSession_congr hsame time world
  rw [hrun generatedAt, hrun later]
  exact ⟨rfl, runSession_times settings original later generatedAt world⟩

theorem replay_reproduces_hasty :
    let original : Recorder Scripted :=
      { source := { answers := SuiteQuestion.hastyAnswers }, clock := fun number => 1000 * number }
    let recorded := collectSuite {} original
    let replayed := collectSuite {} ({ events := recorded.2.events } : Replay)
    Settled recorded.1 ∧ ¬ Broken replayed.1 ∧
      Transcript.load "session.jsonl" (encode (Transcript.fileText recorded.2.events)) =
        .ok recorded.2.events ∧
      replayed.1 = .ok SuiteQuestion.hastySuite ∧ replayed.2.events = [] := by
  intro original recorded replayed
  have hcollected : recorded.1 = .ok SuiteQuestion.hastySuite := by
    have hmirror := Recorder.mirrors_source.converse (SuiteQuestion.guide {})
      SuiteQuestion.session original
    have hheld := (Scripted.converse_eq_hold (SuiteQuestion.guide {}) SuiteQuestion.session
      original.source).1
    have hsame : recorded.1 = _ := (congrArg Prod.fst hmirror).symm
    exact hsame.trans (hheld.trans rfl)
  have hsettled : Settled recorded.1 := by
    rw [hcollected]
    trivial
  have hwhole : ¬ Broken replayed.1 :=
    Replay.not_broken (SuiteQuestion.guide {}) SuiteQuestion.session rfl
  obtain ⟨hload, hreproduces⟩ := replay_reproduces {} original.source original.clock
    (fun number => number) {} "session.jsonl"
  obtain ⟨hsame, -, -, hempty, -⟩ := hreproduces hsettled hwhole
  exact ⟨hsettled, hwhole, hload, hsame.trans hcollected, hempty⟩

end SuiteScribe.Command
