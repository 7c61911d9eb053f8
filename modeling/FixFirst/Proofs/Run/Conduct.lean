import FixFirst.Proofs.Disk
import FixFirst.Proofs.Run.Course
import FixFirst.Proofs.Token.Calm

/-!
# How engines conduct themselves

An engine may do what it likes with the time and with the contents of files, and may answer or
fail as it likes.  It does not cancel the tokens of the run, does not move files, and puts its own
name on its results.  What the journal says of a call that came back is one stretch: the call,
commands, and the outcome.

## Main definitions

* `World.Passed` — what engines leave as it was: tokens change by ticks only, paths mean the same.
* `Conduct`, `Engine.Proper` — what is asked of one call, and of an engine.
* `Job.Answered`, `Answers` — calls that came back, with what the journal says of them.
* `Covers` — a call on a file that came back, with its place in the journal.
* `Smooth` — a journal in which every call came back.
-/

namespace FixFirst

open Relation

/-! ### What stays -/

section

variable {σ : Type} {outer : Nat}

/-- Whether a world comes after another one in which only ticks happened to the clock, and files were
rewritten but not moved. -/
structure World.Passed (outer : Nat) (before after : World Rat σ) : Prop where
  clock : ReflTransGen (Clockwork.Tick outer) before.clock after.clock
  disk : before.disk.Alike after.disk

namespace World.Passed

theorem of_eq {before after : World Rat σ} (hclock : after.clock = before.clock) (hdisk : after.disk = before.disk) :
    before.Passed outer after :=
  ⟨hclock ▸ .refl, hdisk ▸ Disk.Alike.refl _⟩

theorem trans {first second third : World Rat σ} (h : first.Passed outer second) (h' : second.Passed outer third) :
    first.Passed outer third :=
  ⟨h.clock.trans h'.clock, h.disk.trans h'.disk⟩

theorem noted (world : World Rat σ) (events : List (Event Rat)) : world.Passed outer (world.noted events) :=
  of_eq rfl rfl

/-- A token that is active was active before. -/
theorem active {before after : World Rat σ} (h : before.Passed outer after) {token : Nat}
    (hactive : after.clock.forest.isCancelled token = false) : before.clock.forest.isCancelled token = false := by
  cases hbefore : before.clock.forest.isCancelled token with
  | false => rfl
  | true =>
      rw [(Clockwork.later_ticks h.clock).isCancelled hbefore] at hactive
      cases hactive

end World.Passed

/-! ### Engines -/

/-- Whether an entry of the journal is a command. -/
def Event.IsCommand {τ : Type} : Event τ → Prop
  | .command .. => True
  | _ => False

/-- What a call may change that the run depends on: ticks happen, files are rewritten, and commands are
given to the shell. -/
structure Conduct (outer : Nat) (before after : World Rat σ) : Prop extends before.Passed outer after where
  journal : ∃ commands, after.journal = before.journal ++ commands ∧ ∀ event ∈ commands, event.IsCommand

/-- What is asked of an engine: it conducts itself, puts its name on its results, and does not come back
only under a token that is cancelled. -/
structure Engine.Proper (outer : Nat) (engine : Engine Rat σ) : Prop where
  prepares : ∀ fingerprint world, Conduct outer world (Change.on (engine.prepare fingerprint) world).2
  calls : ∀ pass files token world, Conduct outer world (Change.on (engine.call pass files token) world).2
  named : ∀ pass files token world result, (Change.on (engine.call pass files token) world).1 = .result result →
    result.engine = engine.name
  returns : ∀ pass files token world, (Change.on (engine.call pass files token) world).1 = .silence →
    (Change.on (engine.call pass files token) world).2.clock.forest.isCancelled token = true

end

/-! ### Calls that came back -/

variable {τ σ : Type}

/-- Whether a job came back with an outcome, and what the journal says of it. -/
structure Job.Answered (job : Job τ σ) (outcome : Outcome τ) (trace : List (Event τ)) : Prop where
  engine : outcome.engine = job.engine.name
  pass : outcome.pass = job.pass
  back : outcome.verdict ≠ .abandoned
  named : ∀ result, outcome.verdict = .result result → result.engine = job.engine.name
  trace : ∃ commands, (∀ event ∈ commands, event.IsCommand) ∧
    trace = .called job.engine.name job.pass job.files :: commands ++ [.completed outcome]

/-- Whether jobs came back with outcomes, one after the other, and what the journal says of them. -/
inductive Answers : List (Job τ σ × Outcome τ) → List (Event τ) → Prop
  | nil : Answers [] []
  | cons {job : Job τ σ} {outcome : Outcome τ} {trace : List (Event τ)} {pairs : List (Job τ σ × Outcome τ)}
      {events : List (Event τ)} (head : job.Answered outcome trace) (tail : Answers pairs events) :
      Answers ((job, outcome) :: pairs) (trace ++ events)

namespace Answers

variable {pairs more : List (Job τ σ × Outcome τ)} {events rest : List (Event τ)}

theorem append (h : Answers pairs events) (h' : Answers more rest) : Answers (pairs ++ more) (events ++ rest) := by
  induction h with
  | nil => exact h'
  | cons head tail ih =>
      rw [List.append_assoc, List.cons_append]
      exact .cons head ih

/-- A job that came back has its stretch of the journal, between those of the jobs before and after it. -/
theorem split {before after : List (Job τ σ × Outcome τ)} {job : Job τ σ} {outcome : Outcome τ}
    (h : Answers (before ++ (job, outcome) :: after) events) :
    ∃ first trace last, events = first ++ trace ++ last ∧ job.Answered outcome trace ∧ Answers before first ∧
      Answers after last := by
  induction before generalizing events with
  | nil =>
      cases h with
      | cons head tail => exact ⟨[], _, _, rfl, head, .nil, tail⟩
  | cons pair before ih =>
      cases h with
      | cons head tail =>
          obtain ⟨first, trace, last, rfl, hanswered, hbefore, hafter⟩ := ih tail
          refine ⟨_, trace, last, ?_, hanswered, .cons head hbefore, hafter⟩
          simp only [List.append_assoc]

/-- The outcomes in the journal are the outcomes of the jobs. -/
theorem mem_outcomes (h : Answers pairs events) {outcome : Outcome τ} (hin : .completed outcome ∈ events) :
    ∃ job, (job, outcome) ∈ pairs := by
  induction h with
  | nil => cases hin
  | @cons job answer trace pairs events head tail ih =>
      rcases List.mem_append.mp hin with htrace | hrest
      · obtain ⟨commands, hcommands, rfl⟩ := head.trace
        simp only [List.cons_append, List.mem_cons, List.mem_append, List.not_mem_nil, or_false, reduceCtorEq, false_or,
          Event.completed.injEq] at htrace
        rcases htrace with hcommand | rfl
        · exact absurd (hcommands _ hcommand) (by simp [Event.IsCommand])
        · exact ⟨job, List.mem_cons_self⟩
      · obtain ⟨other, hother⟩ := ih hrest
        exact ⟨other, List.mem_cons_of_mem _ hother⟩

theorem answered (h : Answers pairs events) {job : Job τ σ} {outcome : Outcome τ} (hin : (job, outcome) ∈ pairs) :
    ∃ trace, job.Answered outcome trace := by
  obtain ⟨before, after, rfl⟩ := List.append_of_mem hin
  obtain ⟨first, trace, last, -, hanswered, -, -⟩ := h.split
  exact ⟨trace, hanswered⟩

end Answers

/-- Whether a call of an engine on a file came back with an outcome: the journal has the call, commands,
and the outcome, between what is before and after. -/
structure Covers (events : List (Event τ)) (name : String) (kind : Pass) (file : String) (outcome : Outcome τ)
    (before after : List (Event τ)) : Prop where
  engine : outcome.engine = name
  pass : outcome.pass = kind
  back : outcome.verdict ≠ .abandoned
  named : ∀ result, outcome.verdict = .result result → result.engine = name
  stretch : ∃ files commands, file ∈ files ∧ (∀ event ∈ commands, event.IsCommand) ∧
    events = before ++ .called name kind files :: commands ++ .completed outcome :: after

theorem Covers.extend {events before after : List (Event τ)} {engine : String} {pass : Pass} {file : String}
    {outcome : Outcome τ} (h : Covers events engine pass file outcome before after) (first last : List (Event τ)) :
    Covers (first ++ events ++ last) engine pass file outcome (first ++ before) (after ++ last) := by
  obtain ⟨files, commands, hfile, hcommands, rfl⟩ := h.stretch
  refine ⟨h.engine, h.pass, h.back, h.named, files, commands, hfile, hcommands, ?_⟩
  simp only [List.append_assoc, List.cons_append]

theorem Covers.outcome_eq {events before after : List (Event τ)} {engine : String} {pass : Pass} {file : String}
    {outcome : Outcome τ} (h : Covers events engine pass file outcome before after) {result : EngineResult τ}
    (hverdict : outcome.verdict = .result result) : outcome = ⟨engine, pass, .result result⟩ := by
  rw [← h.engine, ← h.pass, ← hverdict]

theorem Job.Answered.covers {job : Job τ σ} {outcome : Outcome τ} {trace : List (Event τ)} {file : String}
    (h : job.Answered outcome trace) (hfile : file ∈ job.files) (before after : List (Event τ)) :
    Covers (before ++ trace ++ after) job.engine.name job.pass file outcome before after := by
  obtain ⟨commands, hcommands, rfl⟩ := h.trace
  refine ⟨h.engine, h.pass, h.back, h.named, job.files, commands, hfile, hcommands, ?_⟩
  simp only [List.append_assoc, List.cons_append, List.nil_append]

/-! ### Smooth journals -/

/-- Whether an entry of the journal is neither about a job nor a command. -/
def Event.Aside : Event τ → Prop
  | .debug _ | .warned _ | .entered _ | .pool _ => True
  | _ => False

theorem Event.Spoken.aside {event : Event τ} (h : event.Spoken) : event.Aside := by
  cases event <;> first | exact h | cases h

/-- Whether an entry of the journal says that a job was not started, or abandoned. -/
def Event.IsLoss : Event τ → Prop
  | .unstarted .. | .abandoned _ => True
  | _ => False

/-- Whether every call in a stretch of the journal came back, and no job was left unstarted or
abandoned. -/
inductive Smooth : List (Event τ) → Prop
  | nil : Smooth []
  | aside {event : Event τ} {rest : List (Event τ)} (beside : event.Aside) (tail : Smooth rest) : Smooth (event :: rest)
  | call {engine : String} {pass : Pass} {files : List String} {commands rest : List (Event τ)} {verdict : Verdict τ}
      (given : ∀ event ∈ commands, event.IsCommand) (back : verdict ≠ .abandoned) (tail : Smooth rest) :
      Smooth (.called engine pass files :: commands ++ .completed ⟨engine, pass, verdict⟩ :: rest)

namespace Smooth

theorem append {first second : List (Event τ)} (h : Smooth first) (h' : Smooth second) : Smooth (first ++ second) := by
  induction h with
  | nil => exact h'
  | aside beside tail ih => exact .aside beside ih
  | call given back tail ih =>
      rw [List.append_assoc, List.cons_append]
      exact .call given back ih

theorem asides {events : List (Event τ)} (h : ∀ event ∈ events, event.Aside) : Smooth events := by
  induction events with
  | nil => exact .nil
  | cons event rest ih =>
      exact .aside (h event List.mem_cons_self) (ih fun other hother => h other (List.mem_cons_of_mem _ hother))

theorem answers {pairs : List (Job τ σ × Outcome τ)} {events : List (Event τ)} (h : Answers pairs events) :
    Smooth events := by
  induction h with
  | nil => exact .nil
  | @cons job outcome trace pairs events head tail ih =>
      obtain ⟨commands, hcommands, rfl⟩ := head.trace
      obtain ⟨engine, pass, verdict⟩ := outcome
      have hengine : engine = job.engine.name := head.engine
      have hpass : pass = job.pass := head.pass
      subst hengine hpass
      rw [List.append_assoc, List.singleton_append]
      exact .call hcommands head.back ih

/-- In a smooth journal no job is left unstarted or abandoned. -/
theorem not_loss {events : List (Event τ)} (h : Smooth events) {event : Event τ} (hin : event ∈ events) :
    ¬ event.IsLoss := by
  intro hloss
  induction h with
  | nil => cases hin
  | aside beside tail ih =>
      rcases List.mem_cons.mp hin with rfl | hrest
      · cases event <;> first | exact beside | exact hloss
      · exact ih hrest
  | call given back tail ih =>
      rw [List.cons_append, List.mem_cons, List.mem_append, List.mem_cons] at hin
      rcases hin with rfl | hcommand | rfl | hrest
      · exact hloss
      · have hgiven := given event hcommand
        cases event <;> first | exact hgiven | exact hloss
      · exact hloss
      · exact ih hrest

end Smooth

end FixFirst
