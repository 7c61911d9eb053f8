import FixFirst.Proofs.Batch.Priority

/-!
# Batched work ends

A round may hand nothing over, and put files off that it took from the queue, so the queue does not get
shorter with each round.  But every round takes a file from the queue at least, and a file goes back at
most as often as it may be put off.  This bounds the rounds, whatever the memory does.

## Main definitions

* `BatchConfig.Valid` — the sizes that a configuration may have.
* `requeued` — the files that rounds put back into the queue.
* `Spent` — what is true of the files that were put back and of those that wait.

## Main statements

* `one_le_size` — a look at the world never finds that a batch has no files.
* `Spent.cut`, `Cuts.spent` — the account of what is put back.
* `process_ends` — the bounds on the rounds of a run, and how it ends.
-/

namespace FixFirst

open Relation

variable {τ σ ρ : Type}

/-- Whether the least size of a batch is positive and at most the usual one. -/
structure BatchConfig.Valid (config : BatchConfig τ) : Prop where
  positive : 1 ≤ config.minSize
  ordered : config.minSize ≤ config.targetSize

/-! ### Lists -/

/-- A list of items of another one, none of which it has more than `most` times, is at most so often as long. -/
theorem length_le_of_count_le {items known : List String} {most : Nat} (hknown : ∀ item ∈ items, item ∈ known)
    (hmost : ∀ item, items.count item ≤ most) : items.length ≤ known.length * most := by
  have hsub : items.toFinset ⊆ known.toFinset := fun item hin => List.mem_toFinset.mpr (hknown item (List.mem_toFinset.mp hin))
  calc items.length = ∑ item ∈ items.toFinset, items.count item := (List.sum_toFinset_count_eq_length items).symm
    _ ≤ items.toFinset.card * most := Finset.sum_le_card_nsmul _ _ _ fun item _ => hmost item
    _ ≤ known.length * most :=
        Nat.mul_le_mul_right _ ((Finset.card_le_card hsub).trans (List.toFinset_card_le known))

/-- Lists that are not empty are together at least as long as there are many. -/
theorem length_le_length_flatMap {α : Type} {items : List α} {parts : α → List String} (h : ∀ item ∈ items, parts item ≠ []) :
    items.length ≤ (items.flatMap parts).length := by
  induction items with
  | nil => exact Nat.zero_le _
  | cons item rest ih =>
      have hfirst : 1 ≤ (parts item).length := List.length_pos_iff.mpr (h item List.mem_cons_self)
      have hrest := ih fun other hin => h other (List.mem_cons_of_mem _ hin)
      rw [List.flatMap_cons, List.length_append, List.length_cons]
      omega

namespace BatchConfig

/-! ### Files that are put back -/

/-- The files that rounds put back into the queue. -/
def requeued (config : BatchConfig τ) (sights : List (Sight τ)) : List String :=
  sights.flatMap fun sight => (config.putOff sight.view sight.queue).map (·.ranked.file)

theorem requeued_append (config : BatchConfig τ) (first second : List (Sight τ)) :
    config.requeued (first ++ second) = config.requeued first ++ config.requeued second := List.flatMap_append

theorem requeued_one (config : BatchConfig τ) (sight : Sight τ) :
    config.requeued [sight] = (config.putOff sight.view sight.queue).map (·.ranked.file) := List.flatMap_singleton ..

theorem putOff_sublist (config : BatchConfig τ) (view : Outlook τ) (queue : List Queued) :
    (config.putOff view queue).Sublist (view.front queue) := by
  unfold putOff
  split
  · exact List.filter_sublist
  · exact List.nil_sublist _

end BatchConfig

/-- What is true of the files that were put back, and of the ones that wait. -/
structure Spent (config : BatchConfig τ) (marked : Option (List String)) (input back : List String) (queue : List Queued) :
    Prop where
  known : ∀ queued ∈ queue, queued.deferrals = back.count queued.ranked.file
  bounded : ∀ file, back.count file ≤ if isMarked marked file then 0 else config.maxDeferrals
  inside : ∀ file ∈ back, file ∈ input

namespace Spent

variable {config : BatchConfig τ} {marked : Option (List String)} {input back handed : List String} {queue : List Queued}

/-- At the start nothing was put back. -/
theorem start (config : BatchConfig τ) (marked : Option (List String)) (input : List String) (ordered : List Ranked) :
    Spent config marked input [] (ordered.map (Queued.mk · 0)) where
  known queued hin := by
    obtain ⟨ranked, -, rfl⟩ := List.mem_map.mp hin
    rfl
  bounded file := by simp
  inside := by simp

/-- A round puts every file back at most once, and only a file that may still be put off. -/
theorem cut (h : Spent config marked input back queue) (hlined : Lined marked input handed queue) (hnodup : input.Nodup)
    (view : Outlook τ) :
    Spent config marked input (back ++ (config.putOff view queue).map (·.ranked.file)) (config.cutFor view queue).rest := by
  have hcounts : ∀ file, (queue.map (·.ranked.file)).count file ≤ input.count file := fun file => by
    have honce := hlined.once file
    rw [List.count_append] at honce
    omega
  have hqueue : (queue.map (·.ranked.file)).Nodup :=
    List.nodup_iff_count.mpr fun file => (hcounts file).trans (List.nodup_iff_count.mp hnodup file)
  rw [← view.front_append_back queue, List.map_append, List.nodup_append] at hqueue
  obtain ⟨hfront, -, hdisjoint⟩ := hqueue
  have hsub := (config.putOff_sublist view queue).map (·.ranked.file)
  have hoff := hfront.sublist hsub
  have hputOff := hlined.ranks.putOff config view
  refine ⟨fun queued hin => ?_, fun file => ?_, fun file hin => ?_⟩
  · rw [(config.cutFor_rest view queue).1] at hin
    rw [List.count_append]
    rcases List.mem_append.mp hin with hback | hagain
    · -- A file behind the front was not put off.
      have hother : queued.ranked.file ∉ (config.putOff view queue).map (·.ranked.file) := fun hput =>
        hdisjoint _ (hsub.subset hput) _ (List.mem_map_of_mem hback) rfl
      rw [h.known queued (List.mem_of_mem_drop hback), List.count_eq_zero_of_not_mem hother]
      rfl
    · obtain ⟨other, hother, rfl⟩ := List.mem_map.mp hagain
      have hone : ((config.putOff view queue).map (·.ranked.file)).count other.ranked.file = 1 :=
        List.count_eq_one_of_mem hoff (List.mem_map_of_mem hother)
      show other.deferrals + 1 = back.count other.ranked.file +
        ((config.putOff view queue).map (·.ranked.file)).count other.ranked.file
      rw [h.known other (hputOff other hother).1, hone]
  · rw [List.count_append]
    by_cases hin : file ∈ (config.putOff view queue).map (·.ranked.file)
    · obtain ⟨queued, hqueued, rfl⟩ := List.mem_map.mp hin
      obtain ⟨hmember, hroom, hmarked⟩ := hputOff queued hqueued
      rw [List.count_eq_one_of_mem hoff hin, hmarked, ← h.known queued hmember]
      exact hroom
    · rw [List.count_eq_zero_of_not_mem hin]
      exact h.bounded file
  · rcases List.mem_append.mp hin with hold | hnew
    · exact h.inside file hold
    · obtain ⟨queued, hqueued, rfl⟩ := List.mem_map.mp hnew
      have hpos : 0 < (queue.map (·.ranked.file)).count queued.ranked.file :=
        List.count_pos_iff.mpr (List.mem_map_of_mem (hputOff queued hqueued).1)
      exact List.count_pos_iff.mp (Nat.lt_of_lt_of_le hpos (hcounts _))

/-- All files together are put back at most so often as the files that are not critical may be. -/
theorem length_le (h : Spent config marked input back queue) :
    back.length ≤ (input.filter fun file => !isMarked marked file).length * config.maxDeferrals := by
  refine length_le_of_count_le (fun file hin => List.mem_filter.mpr ⟨h.inside file hin, ?_⟩) fun file => ?_
  · have hbound := h.bounded file
    have hpos : 0 < back.count file := List.count_pos_iff.mpr hin
    cases hmarked : isMarked marked file with
    | false => rfl
    | true =>
        rw [hmarked] at hbound
        simp only [if_true] at hbound
        omega
  · refine (h.bounded file).trans ?_
    split
    · exact Nat.zero_le _
    · exact Nat.le_refl _

end Spent

namespace BatchConfig

variable [Quantity τ] {config : BatchConfig τ} {marked : Option (List String)} {input : List String}
  {start rest : List Queued} {sights : List (Sight τ)}

/-- Rounds keep the account of what they put back. -/
theorem Cuts.spent (h : Cuts config start sights rest) (hlined : Lined marked input [] start)
    (hstart : Spent config marked input [] start) (hnodup : input.Nodup) :
    Spent config marked input (config.requeued sights) rest := by
  induction h with
  | none => exact hstart
  | @round sights queue before waiting view ih =>
      rw [requeued_append, requeued_one]
      exact ih.cut (before.lined hlined) hnodup view

/-- Every round takes a file off the queue, and only files that are put off go back. -/
theorem Cuts.length_le (h : Cuts config start sights rest) :
    sights.length + rest.length ≤ start.length + (config.requeued sights).length := by
  induction h with
  | none => simp
  | @round sights queue before waiting view ih =>
      have hsplit : queue.length = (view.front queue).length + (view.back queue).length := by
        rw [← List.length_append, view.front_append_back]
      have hfront : 1 ≤ (view.front queue).length := by
        have hsome : 0 < queue.length := List.length_pos_iff.mpr waiting
        show 1 ≤ (queue.take (max 1 view.size)).length
        rw [List.length_take]
        omega
      rw [requeued_append, requeued_one, (config.cutFor_rest view queue).1]
      simp only [List.length_append, List.length_map, List.length_singleton]
      omega

/-- Batches have files in them. -/
theorem files_of_mem_handed {batch : Batch τ} (hin : batch ∈ config.handed sights) : batch.files ≠ [] := by
  obtain ⟨sight, -, hbatch⟩ := List.mem_filterMap.mp hin
  unfold batch? at hbatch
  split at hbatch
  · cases hbatch
  · rename_i something
    cases hbatch
    exact fun hnone => something (List.map_eq_nil_iff.mp hnone)

/-! ### Looks at the world -/

variable {token : Nat} {budget : Option (Amount τ)} {world seen : World τ σ}

/-- Whatever the pressure is, a batch has at least one file. -/
theorem one_le_size (hvalid : config.Valid) {size : Nat} (h : Act.on config.size world = (.ok size, seen)) : 1 ≤ size := by
  obtain ⟨known, middle, -, h⟩ := Act.on_bind_ok.mp h
  cases known with
  | none =>
      cases h
      exact hvalid.positive.trans hvalid.ordered
  | some sample =>
      cases h
      have hleast := sample.level.minimum_le_batchSize config.targetSize config.minSize
      have hpositive := hvalid.positive
      show 1 ≤ (sample.level.batchSize config.targetSize config.minSize).toNat
      omega

theorem one_le_outlook (hvalid : config.Valid) {view : Outlook τ}
    (h : (config.outlook token budget).on world = (.ok view, seen)) : 1 ≤ view.size := by
  obtain ⟨level, middle, -, h⟩ := Act.on_bind_ok.mp h
  obtain ⟨size, middle', hsize, h⟩ := Act.on_bind_ok.mp h
  rw [Act.on_bind_of_ok (Act.on_askClock _ middle')] at h
  obtain ⟨imminent, last, -, h⟩ := Act.on_bind_ok.mp h
  cases h
  exact one_le_size hvalid hsize

/-! ### Whole runs -/

variable {handler : Batch τ → Nat → Act τ σ ρ} {first last : Progress τ σ ρ} {outcome : Except Fault (BatchReport ρ)}
  {after : World τ σ}

theorem Stretch.takes (h : Stretch config handler token budget first sights last) (hvalid : config.Valid) :
    ∀ sight ∈ sights, sight.queue ≠ [] ∧ 1 ≤ sight.view.size := by
  induction h with
  | start => simp
  | @round sights here next view seen before look step ih =>
      intro sight hin
      rcases List.mem_append.mp hin with hold | hnew
      · exact ih sight hold
      · rw [List.mem_singleton.mp hnew]
        exact ⟨(step.spec look).1, one_le_outlook hvalid look⟩

/-- Every round takes at least one file off the queue. -/
theorem Told.takes (h : Told config handler token budget first sights outcome after) (hvalid : config.Valid) :
    ∀ sight ∈ sights, sight.queue.take sight.view.size ≠ [] := by
  have htakes : ∀ sight ∈ sights, sight.queue ≠ [] ∧ 1 ≤ sight.view.size := by
    obtain ⟨rfl, rounds, finish⟩ := h
    intro sight hin
    rcases List.mem_append.mp hin with hbefore | hfinal
    · exact rounds.takes hvalid sight hbefore
    · obtain ⟨view, seen, rfl, waiting, look⟩ := finish.look_of_mem hfinal
      exact ⟨waiting, one_le_outlook hvalid look⟩
  intro sight hin hnone
  obtain ⟨hqueue, hsize⟩ := htakes sight hin
  rcases List.take_eq_nil_iff.mp hnone with hzero | hempty
  · omega
  · exact hqueue hempty

/-- A report counts what was put back. -/
theorem Stretch.deferrals (h : Stretch config handler token budget first sights last) :
    last.report.deferrals = first.report.deferrals + (config.requeued sights).length := by
  induction h with
  | start => rfl
  | @round sights here next view seen before look step ih =>
      have hshed : (here.report.shed (config.cutFor view here.queue)).deferrals =
          here.report.deferrals + (config.putOff view here.queue).length := by
        rw [← (config.cutFor_rest view here.queue).2]
        rfl
      have hnext : next.report.deferrals = here.report.deferrals + (config.putOff view here.queue).length := by
        obtain ⟨-, -, ⟨-, -, hreport, -⟩ | ⟨-, -, result, overran, hreport, -⟩⟩ := step.spec look
        · rw [hreport, hshed]
        · rw [hreport, ← hshed]
          cases overran <;> rfl
      rw [hnext, ih, requeued_append, requeued_one, List.length_append, List.length_map, Nat.add_assoc]

theorem Told.deferrals {report : BatchReport ρ} (h : Told config handler token budget first sights (.ok report) after) :
    report.deferrals = first.report.deferrals + (config.requeued sights).length := by
  obtain @⟨before, final, last, rfl, rounds, finish⟩ := h
  cases finish with
  | ended reports =>
      have hlast : report.deferrals = last.report.deferrals := by
        rcases reports with ⟨-, rfl⟩ | ⟨-, -, rfl⟩ <;> rfl
      rw [hlast, rounds.deferrals, List.append_nil]

/-- Work whose handler returns ends in a report, or in a look at the world that fails. -/
theorem Told.reports_or_blind (h : Told config handler token budget first sights outcome after)
    (hreturns : ∀ batch own world, ∃ result done, (handler batch own).on world = (.ok result, done)) :
    (∃ report, outcome = .ok report) ∨
      ∃ before last fault, Stretch config handler token budget first before last ∧ outcome = .error fault ∧
        (config.outlook token budget).on last.world = (.error fault, after) := by
  obtain @⟨before, final, last, -, rounds, finish⟩ := h
  cases finish with
  | ended reports => exact Or.inl ⟨_, rfl⟩
  | blind waiting going look => exact Or.inr ⟨before, last, _, rounds, rfl, look⟩
  | @broken view seen after fault waiting going look something work =>
      obtain ⟨result, done, hdone⟩ := hreturns (config.batchFor view last.queue last.index) seen.clock.forest.tokens.length
        { seen with clock := (seen.clock.scopeToken token (some (config.batchFor view last.queue last.index).timeout)).2 }
      rw [World.on_budgeted_eq, hdone] at work
      cases work

variable {files : List String} {critical : Option (List String)}

/-- **The batch loop ends whatever the memory does.**  For `input` of distinct files: the rounds of a run and its end can be
told, at most one batch for each file was handed over, every round took at least one file off the queue, no critical
file was put back and every other one at most `maxDeferrals` times, which bounds the rounds and the deferrals of the
report.  When every call of the handler returns, there is a report, unless a look at the world failed. -/
theorem process_ends (hvalid : config.Valid) (hinput : world.disk.normalizeAll files = .ok input)
    (hmarked : critical.mapM world.disk.normalizeAll = .ok marked)
    (h : (config.process files handler token critical budget).on world = (outcome, after)) :
    ∃ sights, Told config handler token budget (opening (rank input marked) world) sights outcome after ∧
      (config.process files (announcing handler) token critical budget).on (world.watched []) =
        (outcome, after.watched (config.handed sights)) ∧
      (config.handed sights).length ≤ input.length ∧
      (∀ sight ∈ sights, sight.queue.take sight.view.size ≠ []) ∧
      (∀ file, (config.requeued sights).count file ≤ if isMarked marked file then 0 else config.maxDeferrals) ∧
      sights.length ≤ input.length + (input.filter fun file => !isMarked marked file).length * config.maxDeferrals ∧
      (∀ report, outcome = .ok report → report.deferrals = (config.requeued sights).length ∧
        report.deferrals ≤ (input.filter fun file => !isMarked marked file).length * config.maxDeferrals) ∧
      ((∀ batch own world, ∃ result done, (handler batch own).on world = (.ok result, done)) →
        (∃ report, outcome = .ok report) ∨
          ∃ last fault, ReflTransGen (Round config handler token budget) (opening (rank input marked) world) last ∧
            outcome = .error fault ∧ (config.outlook token budget).on last.world = (.error fault, after)) := by
  have horder : order world.disk files critical = .ok (rank input marked) :=
    order_ok_iff.mpr ⟨input, marked, hinput, hmarked, rfl⟩
  obtain ⟨sights, htold, hannounced⟩ := process_told horder h
  obtain ⟨rest, hcuts⟩ := htold.cuts rfl
  have hstart : Lined marked input [] ((rank input marked).map (Queued.mk · 0)) := .start marked input
  have hlined := hcuts.lined hstart
  have hspent := hcuts.spent hstart (.start config marked input _) (nodup_normalizeAll hinput)
  have hback := hspent.length_le
  refine ⟨sights, htold, hannounced, ?_, htold.takes hvalid, hspent.bounded, ?_, ?_, fun hreturns => ?_⟩
  · calc (config.handed sights).length
        ≤ ((config.handed sights).flatMap (·.files)).length := length_le_length_flatMap fun _ hin => files_of_mem_handed hin
      _ ≤ input.length := hlined.length_le
  · have hrounds := hcuts.length_le
    have hopening : (opening (ρ := ρ) (rank input marked) world).queue.length = input.length := by
      rw [← length_rank input marked]
      exact List.length_map _
    omega
  · rintro report rfl
    have hcounted : report.deferrals = 0 + (config.requeued sights).length := htold.deferrals
    exact ⟨by omega, by omega⟩
  · rcases htold.reports_or_blind hreturns with hreport | ⟨before, last, fault, rounds, hfault, hblind⟩
    · exact Or.inl hreport
    · exact Or.inr ⟨last, fault, rounds.rounds, hfault, hblind⟩

end BatchConfig

/-- With all memory in use, work on a critical file and another one, which may be put off once, takes at most three rounds
and comes to a report. -/
theorem process_ends_cramped :
    ∃ sights report after, (BatchConfig.process ⟨2, 2, 1, 0, 1, 0⟩ ["/a", "/b"] idling 0 (some ["/b"]) none).on
        World.cramped = (.ok report, after) ∧
      BatchConfig.Told ⟨2, 2, 1, 0, 1, 0⟩ idling 0 none
        (BatchConfig.opening (rank ["/a", "/b"] (some ["/b"])) World.cramped) sights (.ok report) after ∧
      sights.length ≤ 3 ∧ report.deferrals ≤ 1 := by
  have hvalid : BatchConfig.Valid (⟨2, 2, 1, 0, 1, 0⟩ : BatchConfig Rat) := ⟨by decide, by decide⟩
  have hrun : ((BatchConfig.process ⟨2, 2, 1, 0, 1, 0⟩ ["/a", "/b"] idling 0 (some ["/b"]) none).on
      World.cramped).1.toOption.isSome = true := by
    rw [BatchConfig.process_opens order_cramped]
    cbv
  rcases h : (BatchConfig.process ⟨2, 2, 1, 0, 1, 0⟩ ["/a", "/b"] idling 0 (some ["/b"]) none).on World.cramped with
    ⟨outcome, after⟩
  rw [h] at hrun
  obtain ⟨sights, htold, -, -, -, -, hrounds, hdeferrals, -⟩ :=
    BatchConfig.process_ends hvalid normalizeAll_cramped mapM_normalizeAll_cramped h
  cases outcome with
  | error fault => cases hrun
  | ok report => exact ⟨sights, report, after, rfl, htold, hrounds, (hdeferrals report rfl).2⟩

end FixFirst
