import Mathlib.Logic.Relation
import FixFirst.Proofs.Act

/-!
# Rounds of batched work

Batched work goes from round to round.  `Round` says everything that one round can do: it looks at
the world and takes files off the queue, and if some are left to work on, it hands them over as a
batch.  Work that returns is a finite sequence of rounds, which ends with an empty queue or with a
cancelled token.

A handler can be watched: it then notes every batch that it is given and what it answered.
Watching changes nothing else.

## Main definitions

* `Progress`, `Round` — where the work stands, and one round of it.
* `noting` — a handler that notes its calls; `World.watched` — a world with such notes.

## Main statements

* `rounds_ok` — work that returns is a sequence of rounds.
* `rounds_noting` — the rounds of a watched handler are the same.
-/

namespace FixFirst

open Relation

/-- Where batched work stands between two rounds. -/
structure Progress (τ σ ρ : Type) where
  queue : List Queued
  /-- The index of the next batch. -/
  index : Nat
  report : BatchReport ρ
  world : World τ σ

namespace BatchConfig

variable {τ σ ρ : Type} [Quantity τ]

/-- What a round takes off the queue. -/
def cutFor (config : BatchConfig τ) (view : Outlook τ) (queue : List Queued) : Cut :=
  cut config.maxDeferrals view.scarce view.imminent view.size queue

/-- The batch of a round. -/
def batchFor (config : BatchConfig τ) (view : Outlook τ) (queue : List Queued) (index : Nat) : Batch τ :=
  config.batch index (config.cutFor view queue).taken view.left

/-- One round.  A round without files to work on hands nothing over. -/
inductive Round (config : BatchConfig τ) (handler : Batch τ → Nat → Act τ σ ρ) (token : Nat)
    (budget : Option (Amount τ)) : Progress τ σ ρ → Progress τ σ ρ → Prop
  | idle {queue : List Queued} {index : Nat} {report : BatchReport ρ} {world seen : World τ σ}
      {view : Outlook τ} (waiting : queue ≠ [])
      (going : world.clock.forest.isCancelled token = false)
      (look : (config.outlook token budget).on world = (.ok view, seen))
      (nothing : (config.cutFor view queue).taken = []) :
      Round config handler token budget ⟨queue, index, report, world⟩
        ⟨(config.cutFor view queue).rest, index, report.shed (config.cutFor view queue), seen⟩
  | handed {queue : List Queued} {index : Nat} {report : BatchReport ρ} {world seen after : World τ σ}
      {view : Outlook τ} {result : ρ} {overran : Bool} (waiting : queue ≠ [])
      (going : world.clock.forest.isCancelled token = false)
      (look : (config.outlook token budget).on world = (.ok view, seen))
      (something : (config.cutFor view queue).taken ≠ [])
      (work : (World.budgeted token (config.batchFor view queue index).timeout
        (handler (config.batchFor view queue index))).on seen = (.ok (result, overran), after)) :
      Round config handler token budget ⟨queue, index, report, world⟩
        ⟨(config.cutFor view queue).rest, index + 1,
          (report.shed (config.cutFor view queue)).enter (config.batchFor view queue index) result overran, after⟩

variable {config : BatchConfig τ} {handler : Batch τ → Nat → Act τ σ ρ} {token : Nat}
  {budget : Option (Amount τ)}

/-- What the work comes to from where it stands. -/
def proceed (config : BatchConfig τ) (handler : Batch τ → Nat → Act τ σ ρ) (token : Nat)
    (budget : Option (Amount τ)) (progress : Progress τ σ ρ) : Except Fault (BatchReport ρ) × World τ σ :=
  (config.rounds handler token budget progress.queue progress.index progress.report).on progress.world

theorem proceed_nil (index : Nat) (report : BatchReport ρ) (world : World τ σ) :
    config.proceed handler token budget ⟨[], index, report, world⟩ = (.ok report, world) := by
  simp only [proceed]
  rw [rounds]
  simp

theorem proceed_cancelled {queue : List Queued} {index : Nat} {report : BatchReport ρ} {world : World τ σ}
    (waiting : queue ≠ []) (cancelled : world.clock.forest.isCancelled token = true) :
    config.proceed handler token budget ⟨queue, index, report, world⟩ = (.ok (report.cutShort queue), world) := by
  simp only [proceed]
  rw [rounds, dif_neg waiting, Act.on_bind_of_ok (Act.on_isCancelled token world), if_pos cancelled]
  simp

/-- The work of a queue that is not empty, under a token that is not cancelled: a look at the world,
and then an idle round or a batch. -/
theorem proceed_going {queue : List Queued} {index : Nat} {report : BatchReport ρ} {world : World τ σ}
    (waiting : queue ≠ []) (going : world.clock.forest.isCancelled token = false) :
    config.proceed handler token budget ⟨queue, index, report, world⟩ =
      (config.outlook token budget >>= fun view =>
        if (config.cutFor view queue).taken.isEmpty then
          config.rounds handler token budget (config.cutFor view queue).rest index
            (report.shed (config.cutFor view queue))
        else
          World.budgeted token (config.batchFor view queue index).timeout
              (handler (config.batchFor view queue index)) >>= fun answer =>
            config.rounds handler token budget (config.cutFor view queue).rest (index + 1)
              ((report.shed (config.cutFor view queue)).enter (config.batchFor view queue index)
                answer.1 answer.2)).on world := by
  simp only [proceed]
  rw [rounds, dif_neg waiting, Act.on_bind_of_ok (Act.on_isCancelled token world), going]
  rfl

/-- A round does not change what the work comes to. -/
theorem proceed_eq_of_round {first next : Progress τ σ ρ}
    (h : Round config handler token budget first next) :
    config.proceed handler token budget first = config.proceed handler token budget next := by
  cases h with
  | idle waiting going look nothing =>
      rw [proceed_going waiting going, Act.on_bind_of_ok look, if_pos (by simp [nothing])]
      rfl
  | handed waiting going look something work =>
      rw [proceed_going waiting going, Act.on_bind_of_ok look, if_neg (by simp [something]),
        Act.on_bind_of_ok work]
      rfl

theorem proceed_eq_of_rounds {first last : Progress τ σ ρ}
    (h : ReflTransGen (Round config handler token budget) first last) :
    config.proceed handler token budget first = config.proceed handler token budget last := by
  induction h with
  | refl => rfl
  | tail _ step ih => rw [ih, proceed_eq_of_round step]

/-- How work ends: with an empty queue, or cut short. -/
def Ended (token : Nat) (last : Progress τ σ ρ) (report : BatchReport ρ) : Prop :=
  (last.queue = [] ∧ report = last.report) ∨
    (last.queue ≠ [] ∧ last.world.clock.forest.isCancelled token = true ∧ report = last.report.cutShort last.queue)

theorem proceed_of_ended {last : Progress τ σ ρ} {report : BatchReport ρ} (h : Ended token last report) :
    config.proceed handler token budget last = (.ok report, last.world) := by
  rcases h with ⟨hq, rfl⟩ | ⟨hq, hc, rfl⟩
  · obtain ⟨queue, index, report, world⟩ := last
    subst hq
    exact proceed_nil index report world
  · exact proceed_cancelled hq hc

/-- Work that returns is a sequence of rounds up to its end. -/
theorem rounds_ok {first : Progress τ σ ρ} {report : BatchReport ρ} {after : World τ σ}
    (h : config.proceed handler token budget first = (.ok report, after)) :
    ∃ last, ReflTransGen (Round config handler token budget) first last ∧ Ended token last report ∧
      last.world = after := by
  obtain ⟨queue, index, current, world⟩ := first
  -- Every round makes the queue lighter.
  induction hn : Queued.total config.maxDeferrals queue using Nat.strongRecOn
    generalizing queue index current world with
  | _ n ih =>
    by_cases waiting : queue = []
    · subst waiting
      rw [proceed_nil] at h
      cases h
      exact ⟨_, ReflTransGen.refl, Or.inl ⟨rfl, rfl⟩, rfl⟩
    cases going : world.clock.forest.isCancelled token with
    | true =>
        rw [proceed_cancelled waiting going] at h
        cases h
        exact ⟨_, ReflTransGen.refl, Or.inr ⟨waiting, going, rfl⟩, rfl⟩
    | false =>
        rw [proceed_going waiting going] at h
        obtain ⟨view, seen, look, h⟩ := Act.on_bind_ok.mp h
        have lighter : Queued.total config.maxDeferrals (config.cutFor view queue).rest < n :=
          hn ▸ weight_cut_lt _ _ _ _ _ waiting
        by_cases nothing : (config.cutFor view queue).taken = []
        · rw [if_pos (by simp [nothing])] at h
          obtain ⟨last, hrounds, hend, hworld⟩ := ih _ lighter _ _ _ _ h rfl
          exact ⟨last, ReflTransGen.head (.idle waiting going look nothing) hrounds, hend, hworld⟩
        · rw [if_neg (by simp [nothing])] at h
          obtain ⟨⟨result, overran⟩, done, work, h⟩ := Act.on_bind_ok.mp h
          obtain ⟨last, hrounds, hend, hworld⟩ := ih _ lighter _ _ _ _ h rfl
          exact ⟨last, ReflTransGen.head (.handed waiting going look nothing work) hrounds, hend, hworld⟩

/-! ### Watched handlers -/

end BatchConfig

/-- A world with notes on the calls of a handler. -/
def World.watched {τ σ ν : Type} (world : World τ σ) (notes : List ν) : World τ (List ν × σ) :=
  { world with outside := (notes, world.outside) }

/-- Progress with notes on the calls of the handler. -/
def Progress.watched {τ σ ν ρ : Type} (progress : Progress τ σ ρ) (notes : List ν) : Progress τ (List ν × σ) ρ :=
  ⟨progress.queue, progress.index, progress.report, progress.world.watched notes⟩

/-- A handler that notes its calls: each batch, and what was answered. -/
def noting {τ σ ρ : Type} (handler : Batch τ → Nat → Act τ σ ρ) (batch : Batch τ) (own : Nat) :
    Act τ (List (Batch τ × ρ) × σ) ρ :=
  ExceptT.mk fun world =>
    match (handler batch own).on { world with outside := world.outside.2 } with
    | (.ok result, after) => (.ok result, after.watched (world.outside.1 ++ [(batch, result)]))
    | (.error fault, after) => (.error fault, after.watched world.outside.1)

namespace BatchConfig

variable {τ σ ν ρ : Type}

/-- A watched handler does what the handler does, and notes a result. -/
theorem on_noting (handler : Batch τ → Nat → Act τ σ ρ) (batch : Batch τ) (own : Nat) (world : World τ σ)
    (notes : List (Batch τ × ρ)) :
    (noting handler batch own).on (world.watched notes) =
      match (handler batch own).on world with
      | (Except.ok result, after) => (Except.ok result, after.watched (notes ++ [(batch, result)]))
      | (Except.error fault, after) => (Except.error fault, after.watched notes) := rfl

/-- Whether an act does the same, and leaves the notes alone, in a watched world. -/
def Unwatched {α : Type} (act : Act τ σ α) (act' : Act τ (List ν × σ) α) : Prop :=
  ∀ world notes, act'.on (world.watched notes) = ((act.on world).1, (act.on world).2.watched notes)

namespace Unwatched

variable {α β : Type}

theorem pure (value : α) : Unwatched (ν := ν) (Pure.pure value : Act τ σ α) (Pure.pure value) :=
  fun _ _ => rfl

theorem ofExcept (result : Except Fault α) :
    Unwatched (ν := ν) (Act.ofExcept result : Act τ σ α) (Act.ofExcept result) := by
  intro world notes
  simp only [Act.on_ofExcept]

theorem askClock (question : Clockwork τ → α) :
    Unwatched (ν := ν) (World.askClock question : Act τ σ α) (World.askClock question) :=
  fun _ _ => rfl

theorem bind {act : Act τ σ α} {act' : Act τ (List ν × σ) α} {next : α → Act τ σ β}
    {next' : α → Act τ (List ν × σ) β} (h : Unwatched act act')
    (hnext : ∀ value, Unwatched (next value) (next' value)) : Unwatched (act >>= next) (act' >>= next') := by
  intro world notes
  rw [Act.on_bind, Act.on_bind, h world notes]
  rcases act.on world with ⟨outcome, middle⟩
  cases outcome with
  | ok value => exact hnext value middle notes
  | error fault => rfl

theorem attempt {act : Act τ σ α} {act' : Act τ (List ν × σ) α} (h : Unwatched act act') :
    Unwatched act.attempt act'.attempt := by
  intro world notes
  rw [Act.on_attempt, Act.on_attempt, h world notes]

end Unwatched

theorem unwatched_queue (files : List String) (critical : Option (List String)) :
    Unwatched (ν := ν) (queue files critical : Act τ σ (List Ranked)) (queue files critical) := by
  intro world notes
  unfold queue
  rw [Act.on_bind_of_ok (Act.on_get (world.watched notes)), Act.on_bind_of_ok (Act.on_get world)]
  simp only [Act.on_ofExcept]
  rfl

variable [Quantity τ]

theorem unwatched_sample : Unwatched (τ := τ) (σ := σ) (ν := ν) World.sample World.sample := by
  intro world notes
  unfold World.sample
  rw [Act.on_bind_of_ok (Act.on_get (world.watched notes)), Act.on_bind_of_ok (Act.on_get world)]
  have hm : (world.watched notes).monitor = world.monitor := rfl
  rw [hm]
  cases world.monitor with
  | none => rfl
  | some monitor =>
      rw [Act.on_bind_of_ok (Act.on_set _ (world.watched notes)), Act.on_bind_of_ok (Act.on_set _ world)]
      simp only [Act.on_map, Act.on_ofExcept]
      rfl

theorem unwatched_background (count : Nat) :
    Unwatched (τ := τ) (σ := σ) (ν := ν) (World.background count) (World.background count) := by
  induction count with
  | zero => exact .pure ()
  | succ count ih => exact unwatched_sample.attempt.bind fun _ => ih

theorem unwatched_latest : Unwatched (τ := τ) (σ := σ) (ν := ν) World.latest World.latest := by
  intro world notes
  unfold World.latest
  rw [Act.on_bind_of_ok (Act.on_get (world.watched notes)), Act.on_bind_of_ok (Act.on_get world)]
  refine (unwatched_background (world.meanwhile world.readings)).bind (fun _ => ?_) world notes
  intro ahead noted
  rw [Act.on_bind_of_ok (Act.on_get (ahead.watched noted)), Act.on_bind_of_ok (Act.on_get ahead)]
  have hm : (ahead.watched noted).monitor = ahead.monitor := rfl
  rw [hm]
  cases ahead.monitor >>= Monitor.latest with
  | none => exact unwatched_sample ahead noted
  | some known => rfl

/-- A look at the world does not see the notes. -/
theorem unwatched_outlook (config : BatchConfig τ) (token : Nat) (budget : Option (Amount τ)) :
    Unwatched (ν := ν) (config.outlook token budget : Act τ σ (Outlook τ)) (config.outlook token budget) := by
  refine Unwatched.bind (unwatched_sample.bind fun _ => .pure _) fun level => ?_
  refine Unwatched.bind (unwatched_latest.bind fun _ => .pure _) fun size => ?_
  refine Unwatched.bind (.askClock _) fun left => ?_
  exact Unwatched.bind (.ofExcept _) fun imminent => .pure _

theorem budgeted_noting {token : Nat} {budget : τ} {handler : Batch τ → Nat → Act τ σ ρ} {batch : Batch τ}
    {world after : World τ σ} {result : ρ} {overran : Bool} (notes : List (Batch τ × ρ))
    (h : (World.budgeted token budget (handler batch)).on world = (.ok (result, overran), after)) :
    (World.budgeted token budget (noting handler batch)).on (world.watched notes) =
      (.ok (result, overran), after.watched (notes ++ [(batch, result)])) := by
  obtain ⟨own, opened, done, ho, hwork, rfl, rfl⟩ := World.budgeted_ok h
  have hnoted : (noting handler batch own).on { world.watched notes with clock := opened } =
      (.ok result, done.watched (notes ++ [(batch, result)])) := by
    refine (on_noting handler batch own { world with clock := opened } notes).trans ?_
    rw [hwork]
  have hopened : (world.watched notes).clock.scopeToken token (some budget) = (own, opened) := ho
  rw [World.on_budgeted hopened hnoted]
  rfl

variable {config : BatchConfig τ} {handler : Batch τ → Nat → Act τ σ ρ} {token : Nat}
  {budget : Option (Amount τ)}

/-- A round of a watched handler is the same round, with a note if a batch was handed over. -/
theorem round_noting {first next : Progress τ σ ρ} (notes : List (Batch τ × ρ))
    (h : Round config handler token budget first next) :
    ∃ more, Round config (noting handler) token budget (first.watched notes) (next.watched (notes ++ more)) := by
  cases h with
  | @idle queue index report world seen view waiting going look nothing =>
      refine ⟨[], ?_⟩
      have hlook : (config.outlook token budget).on (world.watched notes) = (.ok view, seen.watched notes) := by
        rw [unwatched_outlook config token budget world notes, look]
      rw [List.append_nil]
      exact .idle waiting going hlook nothing
  | @handed queue index report world seen after view result overran waiting going look something work =>
      refine ⟨[(config.batchFor view queue index, result)], ?_⟩
      have hlook : (config.outlook token budget).on (world.watched notes) = (.ok view, seen.watched notes) := by
        rw [unwatched_outlook config token budget world notes, look]
      exact .handed waiting going hlook something (budgeted_noting notes work)

theorem rounds_noting {first last : Progress τ σ ρ} (notes : List (Batch τ × ρ))
    (h : ReflTransGen (Round config handler token budget) first last) :
    ∃ calls, ReflTransGen (Round config (noting handler) token budget) (first.watched notes) (last.watched calls) := by
  induction h with
  | refl => exact ⟨notes, ReflTransGen.refl⟩
  | tail _ step ih =>
      obtain ⟨calls, hcalls⟩ := ih
      obtain ⟨more, hmore⟩ := round_noting calls step
      exact ⟨calls ++ more, hcalls.tail hmore⟩

end BatchConfig

end FixFirst
