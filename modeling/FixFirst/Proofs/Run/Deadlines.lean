import FixFirst.Proofs.Run.Escape
import FixFirst.Proofs.Token.Moves

/-!
# Deadlines and timers

Whatever is done with the tokens of a manager of budgets, a token does not outlast the one above it, it
is cancelled once its deadline has come, and time cancels nothing else.  A released token is left alone,
and so are all tokens that are there when the timers end.  A run ends its timers, whatever comes of its
phases.

## Main definitions

* `Shell.Untimed` — a shell whose commands start no timers.

## Main statements

* `Runner.work_timers`, `Runner.run_timers` — no timer is live after the phases of a run, nor after the run.
* `deadlines_kept` — what deadlines and timers promise, over every sequence of moves.
-/

namespace FixFirst

open Clockwork

variable {τ σ : Type}

/-- Whether the commands of a shell start no timers. -/
def Shell.Untimed (shell : Shell τ σ) : Prop :=
  ∀ command token world, ∀ timer ∈ ((shell command token).on world).2.clock.timers, timer ∈ world.clock.timers

/-- Commands of the version control system, one after the other, start no timers. -/
theorem Shell.Answered.timers {shell : Shell τ σ} (h : shell.Untimed) {root : Path} {commands : List (List String)}
    {world after : World τ σ} {answers : List Completed} (hanswered : shell.Answered root world commands answers after) :
    ∀ timer ∈ after.clock.timers, timer ∈ world.clock.timers := by
  induction hanswered with
  | nil => exact fun timer hin => hin
  | @completed world middle last command commands answer answers hgiven _ ih =>
      have hfirst := h ⟨"git" :: command, some root⟩ none (world.givingGit root command)
      rw [hgiven] at hfirst
      exact fun timer hin => hfirst timer (ih timer hin)
  | @missing world middle last command commands tool detail answers hgiven _ ih =>
      have hfirst := h ⟨"git" :: command, some root⟩ none (world.givingGit root command)
      rw [hgiven] at hfirst
      exact fun timer hin => hfirst timer (ih timer hin)

namespace Runner

variable {runner : Runner τ σ} {request : Request τ}

/-- Staging at the end of a run starts no timers. -/
theorem StageCase.timers (huntimed : runner.shell.Untimed) {cancelled : Bool} {course next : Course τ}
    {report last : Report τ} {world after : World τ σ}
    (h : runner.StageCase request cancelled course report world next last after) :
    ∀ timer ∈ after.clock.timers, timer ∈ world.clock.timers := by
  cases h with
  | unwanted off => exact fun timer hin => hin
  | nothing on normal none => exact fun timer hin => hin
  | left on normal some stopped => exact fun timer hin => hin
  | staged on normal some going enters stages spoken =>
      obtain ⟨tracker, events, -, rfl, -⟩ := Course.enter_ok enters
      obtain ⟨targets, inside, answers, -, -, hgiven, -, -⟩ := stage_answered stages some
      exact (gitEach_answered hgiven).timers huntimed

variable [Quantity τ]

/-- Whatever comes of the phases of a run, no timer is live after them. -/
theorem work_timers (runner : Runner τ σ) (request : Request τ) (setup : Setup τ) (world : World τ σ) :
    ((runner.work request setup).on world).2.clock.timers = [] := by
  unfold work
  rw [Act.on_thenAlways]
  rfl

/-- No timer is live after a run that came to a report. -/
theorem run_timers (huntimed : runner.shell.Untimed) {world after : World τ σ} {report : Report τ}
    (h : (runner.run request).on world = (.ok report, after)) : after.clock.timers = [] := by
  obtain ⟨passage, done, -, hclosed, -, hconclude⟩ := exists_concluded h
  obtain ⟨tracker, -, events, first, next, last, -, -, -, -, -, hstage, -⟩ := conclude_steps rfl hconclude
  refine List.eq_nil_iff_forall_not_mem.mpr fun timer hin => ?_
  have hdone : timer ∈ done.clock.timers := (stageFixed_cases hstage).timers huntimed timer hin
  rw [hclosed] at hdone
  cases hdone

/-- A fault of the phases of a run is the fault of the run, and leaves no timer live. -/
theorem run_timers_error {setup : Setup τ} {fault : Fault} {world ready after : World τ σ}
    (hsetUp : (runner.setUp request).on world = (.ok setup, ready))
    (hwork : (runner.work request setup).on ready = (.error fault, after)) :
    (runner.run request).on world = (.error fault, after) ∧ after.clock.timers = [] := by
  constructor
  · unfold run
    rw [Act.on_bind_of_ok hsetUp, Act.on_bind, hwork]
  · have hclosed := runner.work_timers request setup ready
    rw [hwork] at hclosed
    exact hclosed

end Runner

/-- **Deadlines and timers**, with exact times, over every sequence of moves. -/
theorem deadlines_kept {begin : Rat} {moves : List (Move Rat)} {clock : Clockwork Rat}
    (hmoves : (starting begin).Goes moves clock) :
    -- A token does not outlast the one it was made below.
    (∀ token above due, clock.forest.parent? token = some above → clock.forest.deadline? above = some due →
      ∃ own, clock.forest.deadline? token = some own ∧ own ≤ due) ∧
    -- A token that the manager keeps is cancelled once its deadline has come.
    (∀ token due, (starting begin).Kept moves token → clock.forest.deadline? token = some due → due ≤ clock.now →
      clock.forest.isCancelled token = true) ∧
    -- Time cancels no token before its own deadline or that of one from which links lead to it.
    (∀ seconds token, 0 ≤ seconds → clock.forest.isCancelled token = false →
      (clock.advance seconds).forest.isCancelled token = true →
      ∃ above due, clock.forest.Reaches above token ∧ clock.forest.deadline? above = some due ∧
        due ≤ (clock.advance seconds).now) ∧
    -- A released token is changed neither by time nor by the cancellation of another one, whatever is done after.
    (∀ token later last, token < clock.forest.tokens.length → (clock.release token).Goes later last →
      (∀ seconds, 0 ≤ seconds → (last.advance seconds).forest.token? token = last.forest.token? token) ∧
      ∀ other reason, other ≠ token → (last.cancel other reason).forest.token? token = last.forest.token? token) ∧
    -- Once the timers are ended, time changes no token that was made before, whatever is done after.
    (∀ token later last seconds, token < clock.forest.tokens.length → clock.close.Goes later last → 0 ≤ seconds →
      (last.advance seconds).forest.token? token = last.forest.token? token) ∧
    -- The live timers are those of the tokens that the manager keeps and that have time left, one each.
    ((clock.timers.map (·.token)).Nodup ∧
      ∀ timer, timer ∈ clock.timers ↔
        (starting begin).Kept moves timer.token ∧ clock.forest.deadline? timer.token = some timer.due ∧
          clock.now < timer.due) ∧
    -- A run leaves no timer live, neither when it comes to a report nor when its phases fail.
    ∀ (runner : Runner Rat σ) (request : Request Rat) (world : World Rat σ),
      (∀ report after, runner.shell.Untimed → (runner.run request).on world = (.ok report, after) →
        after.clock.timers = []) ∧
      ∀ setup ready fault after, (runner.setUp request).on world = (.ok setup, ready) →
        (runner.work request setup).on ready = (.error fault, after) →
        (runner.run request).on world = (.error fault, after) ∧ after.clock.timers = [] := by
  have haccurate := hmoves.accurate
  refine ⟨haccurate.regular.capped, haccurate.timely, ?_, ?_, ?_, ⟨haccurate.once, haccurate.live⟩, ?_⟩
  · intro seconds token _ hactive hdone
    have hnow : (clock.advance seconds).now = clock.now + seconds := (fired_advance haccurate.regular seconds).now
    rw [hnow]
    exact exists_due_of_advance haccurate hactive hdone
  · intro token later last hhere hlater
    have hvalid : Move.Valid clock (.release token) := hhere
    have hregular := ((hmoves.snoc hvalid).append hlater).accurate.regular
    obtain ⟨htime, hothers⟩ := released_stays haccurate.regular.toShaped hhere hlater hregular
    exact ⟨fun seconds _ => htime seconds, hothers⟩
  · intro token later last seconds hhere hlater _
    have hvalid : Move.Valid clock .close := trivial
    have hregular := ((hmoves.snoc hvalid).append hlater).accurate.regular
    exact closed_stays hlater hregular hhere seconds
  · intro runner request world
    exact ⟨fun report after huntimed hrun => Runner.run_timers huntimed hrun,
      fun setup ready fault after hsetUp hwork => Runner.run_timers_error hsetUp hwork⟩

/-! ### A manager at work -/

/-- A run with a budget of five seconds, its phases with four of them, and four seconds that pass. -/
def phasesOver : List (Move Rat) := [.runToken (some 5) none, .phaseToken 0 1, .advance 4]

theorem goes_phasesOver : (starting (0 : Rat)).Goes phasesOver ((starting 0).after phasesOver) := by
  refine ⟨⟨?_, ?_, ?_, trivial⟩, rfl⟩
  · rintro above ⟨⟩
  · exact Nat.lt_of_lt_of_eq Nat.zero_lt_one (length_armed (starting (0 : Rat)) none _).symm
  · show (Quantity.zero : Rat) ≤ 4
    rw [zero_rat]
    decide

theorem untimed_unwilling : unwilling.Untimed := by
  intro command token world timer hin
  unfold unwilling at hin
  split at hin
  · exact hin
  · exact hin

-- What names hold, and what a disk holds, is evaluated by equations: unfolding texts is slow.
attribute [local irreducible] Path.hasNul Disk.isDirectory Disk.present

/-- The phases time out, and the run does not; its timer is still live, and once it is released, time passes it by. -/
theorem deadlines_kept_phases :
    ∃ clock, (starting 0).Goes phasesOver clock ∧ clock.forest.isCancelled 1 = true ∧ ⟨0, 5⟩ ∈ clock.timers ∧
      ((clock.release 0).advance 9).forest.token? 0 = (clock.release 0).forest.token? 0 ∧
      ∃ report after, ((fixAndStage ["/a"]).run twoFiles).on (World.still (.empty [] []) ()) = (.ok report, after) ∧
        after.clock.timers = [] := by
  have hevaluated : (((fixAndStage ["/a"]).run twoFiles).on (World.still (.empty [] []) ())).1.toOption.isSome = true := by
    cbv
  obtain ⟨-, htimely, -, hreleased, -, ⟨-, hlive⟩, hruns⟩ := deadlines_kept goes_phasesOver
  refine ⟨_, goes_phasesOver, ?_, ?_, ?_, ?_⟩
  · refine htimely 1 4 ⟨[.runToken (some 5) none], .phaseToken 0 1, [.advance 4], rfl, rfl, ?_, ?_, ?_⟩ ?_ ?_
    · exact (length_armed (starting (0 : Rat)) none _).symm
    · simp
    · simp
    · cbv
    · cbv
  · refine (hlive ⟨0, 5⟩).mpr ⟨⟨[], .runToken (some 5) none, [.phaseToken 0 1, .advance 4], rfl, rfl, rfl, ?_, ?_⟩, ?_, ?_⟩
    · simp
    · simp
    · cbv
    · cbv
  · exact (hreleased 0 [] _ (by cbv) ⟨trivial, rfl⟩).1 9 (by decide)
  · rcases hrun : ((fixAndStage ["/a"]).run twoFiles).on (World.still (.empty [] []) ()) with ⟨outcome, after⟩
    rw [hrun] at hevaluated
    cases outcome with
    | error fault => cases hevaluated
    | ok report => exact ⟨report, after, rfl, (hruns _ _ _).1 report after untimed_unwilling hrun⟩

/-- A manager whose timers ended starts new ones: the token of a run with a budget of one second is active, and two
seconds later it is cancelled. -/
theorem closed_starts_anew :
    ¬ ∀ (moves later : List (Move Rat)) (clock last : Clockwork Rat) (seconds : Rat) (token : Nat),
      (starting 0).Goes moves clock → clock.close.Goes later last → 0 ≤ seconds →
      (last.advance seconds).forest.token? token = last.forest.token? token := by
  intro hstays
  have hlater : (starting (0 : Rat)).close.Goes [.runToken (some 1) none] ((starting 0).close.runToken (some 1) none).2 := by
    refine ⟨⟨?_, trivial⟩, rfl⟩
    rintro above ⟨⟩
  have hsame := hstays [] [.runToken (some 1) none] (starting 0) _ 2 0 ⟨trivial, rfl⟩ hlater (by decide)
  have hbefore : ((starting (0 : Rat)).close.runToken (some 1) none).2.forest.reason? 0 = none := by
    cbv
  have hdone : (((starting (0 : Rat)).close.runToken (some 1) none).2.advance 2).forest.reason? 0 = some "timeout" := by
    cbv
  unfold Forest.reason? at hbefore hdone
  rw [hsame, hbefore] at hdone
  cases hdone

end FixFirst
