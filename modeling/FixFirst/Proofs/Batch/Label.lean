import FixFirst.Proofs.Batch.Priority

/-!
# What batches are labelled

A batch is critical when one of its files is.  Batches that are handed over and batches that are planned
get their label from their files, so they always have this one.  The batch of an admission gets it from
how many files were held back: unless memory is scarce none is, and then every batch with a file in it
is called critical.

## Main definitions

* `Batch.Labelled` — whether a batch is labelled by what it holds.

## Main statements

* `Cuts.labelled`, `labelled_plan` — the labels of batches that are handed over or planned.
* `admission_spec` — what is admitted and what is held back.
* `batches_labelled` — the labels of all batches.
-/

namespace FixFirst

variable {τ σ ρ : Type} {marked : Option (List String)} {input : List String}

/-- Whether a batch is called critical exactly if one of its files is. -/
def Batch.Labelled (marked : Option (List String)) (batch : Batch τ) : Prop :=
  batch.priority = .critical ↔ ∃ file ∈ batch.files, isMarked marked file = true

/-- Consecutive groups are made of the items. -/
theorem BatchConfig.mem_of_mem_chunks {α : Type} {size : Nat} {items group : List α} {item : α}
    (hgroup : group ∈ BatchConfig.chunks size items) (hitem : item ∈ group) : item ∈ items := by
  induction items using BatchConfig.chunks.induct size with
  | case1 =>
      rw [BatchConfig.chunks] at hgroup
      exact absurd hgroup List.not_mem_nil
  | case2 first rest ih =>
      rw [BatchConfig.chunks] at hgroup
      rcases List.mem_cons.mp hgroup with rfl | hlater
      · rcases List.mem_cons.mp hitem with rfl | hnext
        · exact List.mem_cons_self
        · exact List.mem_cons_of_mem _ (List.mem_of_mem_take hnext)
      · exact List.mem_cons_of_mem _ (List.mem_of_mem_drop (ih hlater))

variable [Quantity τ]

/-- A batch of files that are ranked as they are marked is labelled by what it holds. -/
theorem labelled_batch (config : BatchConfig τ) (index : Nat) {files : List Ranked} (left : Option τ)
    (h : ∀ ranked ∈ files, (ranked.priority == .critical) = isMarked marked ranked.file) :
    (config.batch index files left).Labelled marked := by
  have hany : (files.any fun ranked => ranked.priority == .critical) = true ↔
      ∃ file ∈ files.map (·.file), isMarked marked file = true := by
    rw [List.any_eq_true]
    constructor
    · rintro ⟨ranked, hin, hcritical⟩
      exact ⟨ranked.file, List.mem_map_of_mem hin, h ranked hin ▸ hcritical⟩
    · rintro ⟨file, hfile, hmarked⟩
      obtain ⟨ranked, hin, rfl⟩ := List.mem_map.mp hfile
      exact ⟨ranked, hin, (h ranked hin).trans hmarked⟩
  have hlabel : Priority.ofFiles files = .critical ↔ (files.any fun ranked => ranked.priority == .critical) = true := by
    unfold Priority.ofFiles
    split <;> simp_all
  exact hlabel.trans hany

namespace BatchConfig

variable {config : BatchConfig τ} {handler : Batch τ → Nat → Act τ σ ρ} {token : Nat} {budget : Option (Amount τ)}
  {files : List String} {critical : Option (List String)} {world after : World τ σ}

/-- Batches that are handed over are labelled by what they hold. -/
theorem Cuts.labelled {start rest : List Queued} {sights : List (Sight τ)} (h : Cuts config start sights rest)
    (hstart : Lined marked input [] start) : ∀ batch ∈ config.handed sights, batch.Labelled marked := by
  induction h with
  | none => exact fun batch hin => absurd hin List.not_mem_nil
  | @round sights queue before waiting view ih =>
      intro batch hin
      rw [handed_append] at hin
      rcases List.mem_append.mp hin with hold | hnew
      · exact ih batch hold
      · by_cases nothing : (config.cutFor view queue).taken = []
        · rw [handed_idle nothing] at hnew
          exact absurd hnew List.not_mem_nil
        · rw [handed_batch nothing] at hnew
          rw [List.mem_singleton.mp hnew]
          exact labelled_batch config _ _ ((before.lined hstart).ranks.taken config view)

/-- Batches that are planned are labelled by what they hold. -/
theorem labelled_plan (horder : order world.disk files critical = .ok (rank input marked)) {planned : List (Batch τ)}
    (h : (config.plan files critical token).on world = (.ok planned, after)) :
    ∀ batch ∈ planned, batch.Labelled marked := by
  unfold plan at h
  rw [Act.on_bind_of_ok (queue_ok horder)] at h
  obtain ⟨size, seen, -, h⟩ := Act.on_bind_ok.mp h
  rw [Act.on_bind_of_ok (Act.on_askClock _ seen)] at h
  cases h
  intro batch hin
  obtain ⟨⟨group, index⟩, hgroup, rfl⟩ := List.mem_map.mp hin
  have hchunk : group ∈ chunks size (rank input marked) := by
    obtain ⟨-, -, hat⟩ := List.mem_zipIdx hgroup
    exact hat ▸ List.getElem_mem _
  exact labelled_batch config _ _ fun ranked hranked => marked_of_mem_rank (mem_of_mem_chunks hchunk hranked)

/-- While memory is scarce the critical files are admitted and the others are held back; else all are admitted.  The
batch is called critical if not all files are held back. -/
theorem admission_spec (horder : order world.disk files critical = .ok (rank input marked)) {admission : Admission τ}
    (h : (config.admission files critical token).on world = (.ok admission, after)) :
    ∃ level seen, Act.on World.pressure world = (.ok level, seen) ∧
      admission.batch.priority = (if admission.deferred.length < input.length then .critical else .deferrable) ∧
      (level = .critical ∧ admission.batch.files = input.filter (isMarked marked) ∧
          admission.deferred = input.filter (fun file => !isMarked marked file) ∨
        level ≠ .critical ∧ admission.deferred = [] ∧ admission.batch.files =
          input.filter (isMarked marked) ++ input.filter fun file => !isMarked marked file) := by
  unfold BatchConfig.admission at h
  rw [Act.on_bind_of_ok (queue_ok horder)] at h
  obtain ⟨level, seen, hpressure, h⟩ := Act.on_bind_ok.mp h
  rw [Act.on_bind_of_ok (Act.on_askClock _ seen)] at h
  refine ⟨level, seen, hpressure, ?_⟩
  cases h
  rw [← length_rank input marked]
  refine ⟨by rw [List.length_map], ?_⟩
  cases hscarce : level == .critical with
  | true =>
      refine Or.inl ⟨eq_of_beq hscarce, ?_, ?_⟩
      · rw [rank_eq]
        simp [List.filter_map, Function.comp_def]
      · rw [rank_eq]
        simp [List.filter_map, Function.comp_def]
  | false =>
      refine Or.inr ⟨fun heq => ?_, rfl, ?_⟩
      · rw [heq] at hscarce
        cases hscarce
      · rw [rank_eq]
        simp [Function.comp_def]

/-- **A batch is labelled by what it holds.**  Every batch that is handed over, whatever the handler does and however
the memory changes, and every batch that is planned, is called critical exactly if one of its files is critical.  The
batch of an admission is so too while memory is scarce; else it is called critical unless it is empty.  What is admitted
and what is held back are the input, each file once; critical files are admitted, and files are held back only while
memory is scarce. -/
theorem batches_labelled (config : BatchConfig τ) (handler : Batch τ → Nat → Act τ σ ρ) (token : Nat)
    (budget : Option (Amount τ)) (hinput : world.disk.normalizeAll files = .ok input)
    (hmarked : critical.mapM world.disk.normalizeAll = .ok marked) :
    (∀ batch ∈ ((config.process files (announcing handler) token critical budget).on (world.watched [])).2.outside.1,
        batch.Labelled marked) ∧
      (∀ planned after, (config.plan files critical token).on world = (.ok planned, after) →
        ∀ batch ∈ planned, batch.Labelled marked) ∧
      ∀ admission after, (config.admission files critical token).on world = (.ok admission, after) →
        ∃ level seen, Act.on World.pressure world = (.ok level, seen) ∧
          (admission.batch.priority = .critical ↔ (∃ file ∈ admission.batch.files, isMarked marked file = true) ∨
            level ≠ .critical ∧ admission.batch.files ≠ []) ∧
          (admission.batch.files ++ admission.deferred).Perm input ∧
          (admission.batch.files ++ admission.deferred).Nodup ∧
          (∀ file ∈ input, isMarked marked file = true → file ∈ admission.batch.files) ∧
          (admission.deferred ≠ [] → level = .critical) := by
  have horder : order world.disk files critical = .ok (rank input marked) :=
    order_ok_iff.mpr ⟨input, marked, hinput, hmarked, rfl⟩
  refine ⟨?_, fun planned after hplan => labelled_plan horder hplan, fun admission after hadmission => ?_⟩
  · rcases h : (config.process files handler token critical budget).on world with ⟨outcome, after⟩
    obtain ⟨sights, htold, hannounced⟩ := process_told horder h
    obtain ⟨rest, hcuts⟩ := htold.cuts rfl
    rw [hannounced]
    exact hcuts.labelled (.start marked input)
  · obtain ⟨level, seen, hpressure, hpriority, hcases⟩ := admission_spec horder hadmission
    have hsplit := List.filter_append_perm (isMarked marked) input
    have hperm : (admission.batch.files ++ admission.deferred).Perm input := by
      rcases hcases with ⟨-, hfiles, hheld⟩ | ⟨-, hheld, hfiles⟩
      · rw [hfiles, hheld]
        exact hsplit
      · rw [hfiles, hheld, List.append_nil]
        exact hsplit
    have hlength : admission.batch.files.length + admission.deferred.length = input.length := by
      rw [← List.length_append, hperm.length_eq]
    have hcritical : admission.batch.priority = .critical ↔ admission.batch.files ≠ [] := by
      rw [hpriority, ← List.length_pos_iff]
      split
      · exact ⟨fun _ => by omega, fun _ => rfl⟩
      · exact ⟨nofun, fun hlt => by omega⟩
    refine ⟨level, seen, hpressure, ?_, hperm, hperm.nodup_iff.mpr (nodup_normalizeAll hinput), ?_, ?_⟩
    · rw [hcritical]
      rcases hcases with ⟨hlevel, hfiles, -⟩ | ⟨hlevel, -, -⟩
      · -- All files that are admitted are critical.
        constructor
        · intro hsome
          obtain ⟨file, hfile⟩ := List.exists_mem_of_ne_nil _ hsome
          refine Or.inl ⟨file, hfile, ?_⟩
          rw [hfiles] at hfile
          exact (List.mem_filter.mp hfile).2
        · rintro (⟨file, hfile, -⟩ | ⟨hother, -⟩)
          · exact List.ne_nil_of_mem hfile
          · exact absurd hlevel hother
      · constructor
        · exact fun hsome => Or.inr ⟨hlevel, hsome⟩
        · rintro (⟨file, hfile, -⟩ | ⟨-, hsome⟩)
          · exact List.ne_nil_of_mem hfile
          · exact hsome
    · intro file hfile hmark
      have hin : file ∈ input.filter (isMarked marked) := List.mem_filter.mpr ⟨hfile, hmark⟩
      rcases hcases with ⟨-, hfiles, -⟩ | ⟨-, -, hfiles⟩
      · rwa [hfiles]
      · rw [hfiles]
        exact List.mem_append_left _ hin
    · intro hheld
      rcases hcases with ⟨hlevel, -, -⟩ | ⟨-, hnone, -⟩
      · exact hlevel
      · exact absurd hnone hheld

end BatchConfig

-- What names hold, and what a disk holds, is evaluated by equations: unfolding texts is slow.
attribute [local irreducible] Path.hasNul Disk.isDirectory Disk.present

/-- With all memory in use, the critical one of two files is admitted as a critical batch. -/
theorem batches_labelled_cramped :
    ∃ admission after, (BatchConfig.admission ⟨2, 1, 1, 0, 1, 0⟩ ["/a", "/b"] (some ["/b"]) 0).on World.cramped =
        (.ok admission, after) ∧
      admission.batch.files = ["/b"] ∧ admission.batch.priority = .critical ∧
      (admission.batch.files ++ admission.deferred).Perm ["/a", "/b"] := by
  have hrun : ((BatchConfig.admission ⟨2, 1, 1, 0, 1, 0⟩ ["/a", "/b"] (some ["/b"]) 0).on World.cramped).1.toOption.map
      (·.batch.files) = some ["/b"] := by
    unfold BatchConfig.admission
    rw [Act.on_bind_of_ok (BatchConfig.queue_ok order_cramped)]
    cbv
  obtain ⟨-, -, hadmitted⟩ :=
    BatchConfig.batches_labelled ⟨2, 1, 1, 0, 1, 0⟩ idling 0 none normalizeAll_cramped mapM_normalizeAll_cramped
  rcases h : (BatchConfig.admission ⟨2, 1, 1, 0, 1, 0⟩ ["/a", "/b"] (some ["/b"]) 0).on World.cramped with ⟨outcome, after⟩
  rw [h] at hrun
  cases outcome with
  | error fault => cases hrun
  | ok admission =>
      have hfiles : admission.batch.files = ["/b"] := Option.some.inj hrun
      obtain ⟨level, seen, -, hlabel, hperm, -⟩ := hadmitted admission after h
      refine ⟨admission, after, rfl, hfiles, hlabel.mpr (Or.inl ⟨"/b", ?_, rfl⟩), hperm⟩
      rw [hfiles]
      exact List.mem_singleton_self _

/-- While memory is not scarce, a file that is not critical is admitted as a critical batch; the same file is planned
as one that is not. -/
theorem admission_mislabelled :
    (∃ admission after, (BatchConfig.admission ⟨2, 1, 1, 0, 1, 0⟩ ["/a"] (some []) 0).on
        (World.still (.empty [] []) ()) = (.ok admission, after) ∧
      admission.batch.files = ["/a"] ∧ admission.batch.priority = .critical ∧ ¬admission.batch.Labelled (some [])) ∧
    ∃ planned after, (BatchConfig.plan ⟨2, 1, 1, 0, 1, 0⟩ ["/a"] (some []) 0).on
        (World.still (.empty [] []) ()) = (.ok planned, after) ∧
      planned.map Batch.files = [["/a"]] ∧ planned.map Batch.priority = [.deferrable] := by
  have horder : order (World.still (.empty [] []) ()).disk ["/a"] (some []) = .ok [⟨"/a", .deferrable⟩] := by cbv
  constructor
  · have hrun : ((BatchConfig.admission ⟨2, 1, 1, 0, 1, 0⟩ ["/a"] (some []) 0).on
        (World.still (.empty [] []) ())).1.toOption.map (fun admission => (admission.batch.files, admission.batch.priority)) =
          some (["/a"], .critical) := by
      unfold BatchConfig.admission
      rw [Act.on_bind_of_ok (BatchConfig.queue_ok horder)]
      cbv
    rcases h : (BatchConfig.admission ⟨2, 1, 1, 0, 1, 0⟩ ["/a"] (some []) 0).on (World.still (.empty [] []) ()) with
      ⟨outcome, after⟩
    rw [h] at hrun
    cases outcome with
    | error fault => cases hrun
    | ok admission =>
        obtain ⟨hfiles, hpriority⟩ := Prod.mk.inj (Option.some.inj hrun)
        refine ⟨admission, after, rfl, hfiles, hpriority, fun hlabel => ?_⟩
        obtain ⟨file, -, hmarked⟩ := hlabel.mp hpriority
        cases hmarked
  · have hrun : ((BatchConfig.plan ⟨2, 1, 1, 0, 1, 0⟩ ["/a"] (some []) 0).on
        (World.still (.empty [] []) ())).1.toOption.map (fun planned => (planned.map Batch.files, planned.map Batch.priority)) =
          some ([["/a"]], [.deferrable]) := by
      unfold BatchConfig.plan
      rw [Act.on_bind_of_ok (BatchConfig.queue_ok horder)]
      cbv
    rcases h : (BatchConfig.plan ⟨2, 1, 1, 0, 1, 0⟩ ["/a"] (some []) 0).on (World.still (.empty [] []) ()) with
      ⟨outcome, after⟩
    rw [h] at hrun
    cases outcome with
    | error fault => cases hrun
    | ok planned =>
        obtain ⟨hfiles, hpriority⟩ := Prod.mk.inj (Option.some.inj hrun)
        exact ⟨planned, after, rfl, hfiles, hpriority⟩

end FixFirst
