import FixFirst.Proofs.Batch.Handing

/-!
# Critical files come first

Files are queued with the critical ones first, and a cut takes from the front.  While memory is scarce,
files that are not critical go from the front to the end, or leave the queue.  So the files that were
handed over and those that wait, in this order, always have the critical ones first, in the order of the
input.  No critical file leaves the queue but to be handed over.

## Main definitions

* `isMarked` — whether a file is critical.
* `Lined` — what is true of the files that were handed over and of those that wait.
* `Excused` — critical files are left out only with a batch that overran its budget.

## Main statements

* `Lined.cut`, `Cuts.lined` — a round keeps the files in line, and so do all rounds.
* `critical_first` — critical files are handed over first, and all of them.
-/

namespace FixFirst

open Relation

variable {τ σ ρ : Type}

/-! ### Marks -/

/-- Whether a file is critical when `marked` are the critical ones; all are when nothing is said. -/
def isMarked (marked : Option (List String)) (file : String) : Bool := marked.all fun known => known.contains file

/-- Marked files come first, in the order that they had. -/
theorem rank_eq (files : List String) (marked : Option (List String)) :
    rank files marked = (files.filter (isMarked marked)).map (⟨·, .critical⟩) ++
      (files.filter fun file => !isMarked marked file).map (⟨·, .deferrable⟩) := by
  cases marked with
  | none =>
      have hall : isMarked none = fun _ => true := rfl
      simp [rank, hall]
  | some known =>
      have hknown : isMarked (some known) = fun file => known.contains file := rfl
      simp [rank, hknown]

/-- Ranked files are critical as they are marked. -/
theorem marked_of_mem_rank {files : List String} {marked : Option (List String)} {ranked : Ranked}
    (h : ranked ∈ rank files marked) : (ranked.priority == .critical) = isMarked marked ranked.file := by
  rw [rank_eq] at h
  rcases List.mem_append.mp h with hcritical | hother
  · obtain ⟨file, hfile, rfl⟩ := List.mem_map.mp hcritical
    exact (List.mem_filter.mp hfile).2.symm
  · obtain ⟨file, hfile, rfl⟩ := List.mem_map.mp hother
    have hfalse : isMarked marked file = false := by simpa using (List.mem_filter.mp hfile).2
    exact hfalse.symm

theorem length_rank (files : List String) (marked : Option (List String)) : (rank files marked).length = files.length := by
  have hperm : ((rank files marked).map (·.file)).Perm files := List.perm_iff_count.mpr (count_rank files marked)
  simpa using hperm.length_eq

theorem order_ok_iff {disk : Disk} {files : List String} {critical : Option (List String)} {ordered : List Ranked} :
    order disk files critical = .ok ordered ↔
      ∃ input marked, disk.normalizeAll files = .ok input ∧ critical.mapM disk.normalizeAll = .ok marked ∧
        ordered = rank input marked := by
  unfold order
  cases disk.normalizeAll files with
  | error fault => simp [bind, Except.bind]
  | ok input =>
      cases critical with
      | none => simp [bind, Except.bind, pure, Except.pure, eq_comm]
      | some listed =>
          cases hlisted : disk.normalizeAll listed with
          | error fault => simp [bind, Except.bind, hlisted, Option.mapM]
          | ok marked => simp [bind, Except.bind, pure, Except.pure, hlisted, Option.mapM, eq_comm]

/-- A list in which marked items come before others is its marked items and then the others. -/
theorem eq_filter_append {α : Type} (p : α → Bool) {items : List α}
    (h : items.Pairwise fun first second => p second = true → p first = true) :
    items = items.filter p ++ items.filter fun item => !p item := by
  induction items with
  | nil => rfl
  | cons first rest ih =>
      obtain ⟨hfirst, hrest⟩ := List.pairwise_cons.mp h
      by_cases hp : p first = true
      · simp only [List.filter_cons, hp, if_true, Bool.not_true, Bool.false_eq_true, if_false, List.cons_append]
        rw [← ih hrest]
      · have hnone : ∀ second ∈ rest, ¬p second = true := fun second hin hsecond => hp (hfirst second hin hsecond)
        have hall : ∀ second ∈ rest, (!p second) = true := fun second hin => by simpa using hnone second hin
        rw [List.filter_cons_of_neg hp, List.filter_cons_of_pos (by simpa using hp), List.filter_eq_nil_iff.mpr hnone,
          List.filter_eq_self.mpr hall, List.nil_append]

/-! ### Cuts of a queue in line -/

/-- Whether a queue knows which of its files are critical. -/
def Queued.Ranks (marked : Option (List String)) (queue : List Queued) : Prop :=
  ∀ queued ∈ queue, queued.isCritical = isMarked marked queued.ranked.file

namespace Queued.Ranks

variable {marked : Option (List String)} {queue : List Queued}

theorem mono {other : List Queued} (h : Queued.Ranks marked queue) (hsub : ∀ queued ∈ other, queued ∈ queue) :
    Queued.Ranks marked other :=
  fun queued hin => h queued (hsub queued hin)

theorem front (h : Queued.Ranks marked queue) (view : Outlook τ) : Queued.Ranks marked (view.front queue) :=
  h.mono fun _ => List.mem_of_mem_take

/-- The critical files of a queue are its marked ones. -/
theorem filter_files (h : Queued.Ranks marked queue) :
    (queue.filter Queued.isCritical).map (·.ranked.file) = (queue.map (·.ranked.file)).filter (isMarked marked) := by
  rw [List.filter_map]
  refine congrArg _ (List.filter_congr fun queued hin => ?_)
  exact h queued hin

variable (config : BatchConfig τ) (view : Outlook τ)

/-- Files that are put off are not critical. -/
theorem putOff (h : Queued.Ranks marked queue) :
    ∀ queued ∈ config.putOff view queue, queued ∈ queue ∧ queued.deferrals < config.maxDeferrals ∧
      isMarked marked queued.ranked.file = false := by
  intro queued hin
  cases hscarce : view.scarce with
  | false =>
      rw [(config.cutFor_plenty hscarce queue).2.2] at hin
      exact absurd hin List.not_mem_nil
  | true =>
      rw [(config.cutFor_scarce hscarce queue).2.2] at hin
      obtain ⟨hqueued, hoff⟩ := List.mem_filter.mp hin
      simp only [Queued.isPutOff, Bool.and_eq_true, Bool.not_eq_true', decide_eq_true_eq] at hoff
      have hmember : queued ∈ queue := List.mem_of_mem_take hqueued
      exact ⟨hmember, hoff.2, h queued hmember ▸ hoff.1.1⟩

/-- Files that are left out are not critical. -/
theorem omitted (h : Queued.Ranks marked queue) :
    ∀ file ∈ (config.cutFor view queue).omitted, isMarked marked file = false := by
  intro file hin
  cases hscarce : view.scarce with
  | false =>
      rw [(config.cutFor_plenty hscarce queue).2.1] at hin
      exact absurd hin List.not_mem_nil
  | true =>
      rw [(config.cutFor_scarce hscarce queue).2.1] at hin
      obtain ⟨queued, hqueued, rfl⟩ := List.mem_map.mp hin
      obtain ⟨hqueued, hout⟩ := List.mem_filter.mp hqueued
      simp only [Queued.isLeftOut, Bool.and_eq_true, Bool.not_eq_true'] at hout
      exact h.front view queued hqueued ▸ hout.1

/-- What is taken from a queue is ranked as it was there. -/
theorem taken (h : Queued.Ranks marked queue) :
    ∀ ranked ∈ (config.cutFor view queue).taken, (ranked.priority == .critical) = isMarked marked ranked.file := by
  intro ranked hin
  have hfront : ∃ queued ∈ view.front queue, queued.ranked = ranked := by
    cases hscarce : view.scarce with
    | false =>
        rw [(config.cutFor_plenty hscarce queue).1] at hin
        exact List.mem_map.mp hin
    | true =>
        rw [(config.cutFor_scarce hscarce queue).1] at hin
        obtain ⟨queued, hqueued, heq⟩ := List.mem_map.mp hin
        exact ⟨queued, List.mem_of_mem_filter hqueued, heq⟩
  obtain ⟨queued, hqueued, rfl⟩ := hfront
  exact h.front view queued hqueued

theorem rest (h : Queued.Ranks marked queue) : Queued.Ranks marked (config.cutFor view queue).rest := by
  intro queued hin
  rw [(config.cutFor_rest view queue).1] at hin
  rcases List.mem_append.mp hin with hback | hagain
  · exact h queued (List.mem_of_mem_drop hback)
  · obtain ⟨other, hother, rfl⟩ := List.mem_map.mp hagain
    exact h other (h.putOff config view other hother).1

end Queued.Ranks

/-- The files that were handed over, and the ones that wait: critical ones first, as they were in the input. -/
structure Lined (marked : Option (List String)) (input handed : List String) (queue : List Queued) : Prop where
  ranks : Queued.Ranks marked queue
  sorted : (handed ++ queue.map (·.ranked.file)).Pairwise fun first second =>
    isMarked marked second = true → isMarked marked first = true
  complete : (handed ++ queue.map (·.ranked.file)).filter (isMarked marked) = input.filter (isMarked marked)
  once : ∀ file, (handed ++ queue.map (·.ranked.file)).count file ≤ input.count file

/-- Whether files are critical ones as they come in the input, and then others, which come only after all
critical ones. -/
def CriticalFirst (marked : Option (List String)) (input files : List String) : Prop :=
  ∃ first rest, files = first ++ rest ∧ first <+: input.filter (isMarked marked) ∧
    (∀ file ∈ rest, isMarked marked file = false) ∧ (rest ≠ [] → first = input.filter (isMarked marked))

namespace Lined

variable {marked : Option (List String)} {input handed : List String} {queue : List Queued}

/-- At the start everything waits. -/
theorem start (marked : Option (List String)) (input : List String) :
    Lined marked input [] ((rank input marked).map (Queued.mk · 0)) := by
  have hfiles : ((rank input marked).map (Queued.mk · 0)).map (·.ranked.file) =
      input.filter (isMarked marked) ++ input.filter fun file => !isMarked marked file := by
    rw [rank_eq]
    simp [Function.comp_def]
  refine ⟨fun queued hin => ?_, ?_, ?_, fun file => ?_⟩
  · obtain ⟨ranked, hranked, rfl⟩ := List.mem_map.mp hin
    exact marked_of_mem_rank hranked
  · rw [List.nil_append, hfiles, List.pairwise_append]
    refine ⟨List.pairwise_of_forall_mem_list fun first hfirst _ _ _ => (List.mem_filter.mp hfirst).2, ?_, ?_⟩
    · exact List.pairwise_of_forall_mem_list fun _ _ second hsecond hmarked => by
        simp [hmarked] at hsecond
    · exact fun first hfirst _ _ _ => (List.mem_filter.mp hfirst).2
  · rw [List.nil_append, hfiles, List.filter_append, List.filter_filter, List.filter_filter]
    simp
  · rw [List.nil_append, List.map_map]
    exact Nat.le_of_eq (count_rank input marked file)

/-- A round keeps the files in line. -/
theorem cut (h : Lined marked input handed queue) (config : BatchConfig τ) (view : Outlook τ) :
    Lined marked input (handed ++ (config.cutFor view queue).taken.map (·.file)) (config.cutFor view queue).rest := by
  have honce : ∀ file, (handed ++ (config.cutFor view queue).taken.map (·.file) ++
      (config.cutFor view queue).rest.map (·.ranked.file)).count file ≤ input.count file := fun file => by
    have hcut := config.count_cutFor view queue file
    have hbefore := h.once file
    simp only [List.count_append] at hbefore ⊢
    omega
  have hsplit : queue.map (·.ranked.file) = (view.front queue).map (·.ranked.file) ++ (view.back queue).map (·.ranked.file) := by
    rw [← List.map_append, view.front_append_back]
  have hrest : (config.cutFor view queue).rest.map (·.ranked.file) =
      (view.back queue).map (·.ranked.file) ++ (config.putOff view queue).map (·.ranked.file) := by
    rw [(config.cutFor_rest view queue).1, List.map_append, List.map_map]
    rfl
  cases hscarce : view.scarce with
  | false =>
      obtain ⟨htaken, -, hnone⟩ := config.cutFor_plenty hscarce queue
      -- The files go on in the same order.
      have hsame : handed ++ (config.cutFor view queue).taken.map (·.file) ++ (config.cutFor view queue).rest.map (·.ranked.file) =
          handed ++ queue.map (·.ranked.file) := by
        rw [htaken, hrest, hnone, hsplit, List.map_nil, List.append_nil, List.map_map, List.append_assoc]
        rfl
      exact ⟨h.ranks.rest config view, hsame ▸ h.sorted, hsame ▸ h.complete, honce⟩
  | true =>
      have htaken : (config.cutFor view queue).taken.map (·.file) =
          ((view.front queue).filter Queued.isCritical).map (·.ranked.file) := by
        rw [(config.cutFor_scarce hscarce queue).1, List.map_map]
        rfl
      have hoff : ∀ file ∈ (config.putOff view queue).map (·.ranked.file), ¬isMarked marked file = true := by
        intro file hin
        obtain ⟨queued, hqueued, rfl⟩ := List.mem_map.mp hin
        rw [(h.ranks.putOff config view queued hqueued).2.2]
        exact Bool.false_ne_true
      refine ⟨h.ranks.rest config view, ?_, ?_, honce⟩
      · -- Files that are not critical may stand at the end.
        rw [htaken, hrest, ← List.append_assoc, List.pairwise_append]
        refine ⟨?_, ?_, fun _ _ second hsecond hmarked => absurd hmarked (hoff second hsecond)⟩
        · have hsorted := h.sorted
          rw [hsplit, ← List.append_assoc] at hsorted
          refine hsorted.sublist (List.Sublist.append_right (List.Sublist.append_left ?_ _) _)
          exact List.filter_sublist.map _
        · exact List.pairwise_of_forall_mem_list fun _ _ second hsecond hmarked => absurd hmarked (hoff second hsecond)
      · rw [htaken, hrest, (h.ranks.front view).filter_files, ← h.complete, hsplit]
        simp only [List.filter_append, List.filter_filter, Bool.and_self, List.filter_eq_nil_iff.mpr hoff, List.append_nil,
          List.append_assoc]

/-- When nothing waits, every critical file was handed over. -/
theorem handed_of_empty (h : Lined marked input handed queue) (hqueue : queue = []) {file : String} (hfile : file ∈ input)
    (hmarked : isMarked marked file = true) : file ∈ handed := by
  have hcomplete := h.complete
  rw [hqueue, List.map_nil, List.append_nil] at hcomplete
  have hin : file ∈ input.filter (isMarked marked) := List.mem_filter.mpr ⟨hfile, hmarked⟩
  rw [← hcomplete] at hin
  exact List.mem_of_mem_filter hin

/-- No more files are handed over than there are. -/
theorem length_le (h : Lined marked input handed queue) : handed.length ≤ input.length := by
  have hsub : (handed ++ queue.map (·.ranked.file)).Subperm input := List.subperm_ext_iff.mpr fun file _ => h.once file
  have hle := hsub.length_le
  rw [List.length_append] at hle
  omega

theorem criticalFirst (h : Lined marked input handed queue) : CriticalFirst marked input handed := by
  obtain ⟨hhanded, -, hcross⟩ := List.pairwise_append.mp h.sorted
  have hcomplete := h.complete
  rw [List.filter_append] at hcomplete
  have hrest : ∀ file ∈ handed.filter (fun file => !isMarked marked file), isMarked marked file = false :=
    fun file hin => by simpa using (List.mem_filter.mp hin).2
  refine ⟨handed.filter (isMarked marked), handed.filter fun file => !isMarked marked file,
    eq_filter_append _ hhanded, ⟨_, hcomplete⟩, hrest, fun hsome => ?_⟩
  obtain ⟨file, hfile⟩ := List.exists_mem_of_ne_nil _ hsome
  -- A critical file that still waits would come after a file that is not critical.
  have hnone : (queue.map (·.ranked.file)).filter (isMarked marked) = [] :=
    List.filter_eq_nil_iff.mpr fun waiting hwaiting hmarked => by
      have hearlier := hcross file (List.mem_of_mem_filter hfile) waiting hwaiting hmarked
      rw [hrest file hfile] at hearlier
      exact Bool.false_ne_true hearlier
  rw [← hcomplete, hnone, List.append_nil]

end Lined
/-! ### Critical files that are left out -/

/-- Critical files are left out only with a batch that overran its budget. -/
structure Excused (marked : Option (List String)) (batches : List (Batch τ)) (index : Nat) (report : BatchReport ρ) :
    Prop where
  numbered : ∀ batch ∈ batches, batch.index < index
  below : ∀ late ∈ report.timedOut, late < index
  omitted : ∀ file, isMarked marked file = true →
    (file ∈ report.omitted ↔ ∃ batch ∈ batches, file ∈ batch.files ∧ batch.index ∈ report.timedOut)

namespace Excused

variable {marked : Option (List String)} {batches : List (Batch τ)} {index : Nat} {report : BatchReport ρ}

theorem start (marked : Option (List String)) : Excused marked ([] : List (Batch τ)) 0 (BatchReport.empty : BatchReport ρ) where
  numbered := by simp
  below := by simp [BatchReport.empty]
  omitted := by simp [BatchReport.empty]

/-- What a round leaves out of the queue is not critical. -/
theorem shed (h : Excused marked batches index report) {round : Cut}
    (hround : ∀ file ∈ round.omitted, isMarked marked file = false) :
    Excused marked batches index (report.shed round) where
  numbered := h.numbered
  below := h.below
  omitted file hmarked := by
    have hnot : file ∉ round.omitted := fun hin => by
      rw [hround file hin] at hmarked
      exact Bool.false_ne_true hmarked
    simpa [BatchReport.shed, hnot] using h.omitted file hmarked

/-- A batch is left out as a whole, or not at all. -/
theorem enter (h : Excused marked batches index report) {batch : Batch τ} (hindex : batch.index = index) (result : ρ)
    (overran : Bool) : Excused marked (batches ++ [batch]) (index + 1) (report.enter batch result overran) where
  numbered other hother := by
    rcases List.mem_append.mp hother with hold | hnew
    · exact Nat.lt_succ_of_lt (h.numbered other hold)
    · rw [List.mem_singleton.mp hnew, hindex]
      exact Nat.lt_succ_self index
  below late hlate := by
    cases overran with
    | false => exact Nat.lt_succ_of_lt (h.below late hlate)
    | true =>
        rcases List.mem_append.mp hlate with hold | hnew
        · exact Nat.lt_succ_of_lt (h.below late hold)
        · rw [List.mem_singleton.mp hnew, hindex]
          exact Nat.lt_succ_self index
  omitted file hmarked := by
    have hold := h.omitted file hmarked
    have hfresh : batch.index ∉ report.timedOut := fun hin => by
      have hlt := h.below _ hin
      omega
    cases overran with
    | false =>
        have hsame : (report.enter batch result false).omitted = report.omitted := rfl
        have htimed : (report.enter batch result false).timedOut = report.timedOut := rfl
        rw [hsame, htimed, hold]
        constructor
        · rintro ⟨other, hother, hrest⟩
          exact ⟨other, List.mem_append_left _ hother, hrest⟩
        · rintro ⟨other, hother, hfile, hlate⟩
          rcases List.mem_append.mp hother with hbefore | hnew
          · exact ⟨other, hbefore, hfile, hlate⟩
          · rw [List.mem_singleton.mp hnew] at hlate
            exact absurd hlate hfresh
    | true =>
        have hmore : (report.enter batch result true).omitted = report.omitted ++ batch.files := rfl
        have htimed : (report.enter batch result true).timedOut = report.timedOut ++ [batch.index] := rfl
        rw [hmore, htimed, List.mem_append, hold]
        constructor
        · rintro (⟨other, hother, hfile, hlate⟩ | hfile)
          · exact ⟨other, List.mem_append_left _ hother, hfile, List.mem_append_left _ hlate⟩
          · exact ⟨batch, List.mem_append_right _ (List.mem_singleton_self _), hfile,
              List.mem_append_right _ (List.mem_singleton_self _)⟩
        · rintro ⟨other, hother, hfile, hlate⟩
          rcases List.mem_append.mp hother with hbefore | hnew
          · refine Or.inl ⟨other, hbefore, hfile, ?_⟩
            rcases List.mem_append.mp hlate with hlate | hlate
            · exact hlate
            · have hlt := h.numbered other hbefore
              rw [List.mem_singleton.mp hlate] at hlt
              omega
          · rw [List.mem_singleton.mp hnew] at hfile
            exact Or.inr hfile

end Excused

/-! ### Whole runs -/

namespace BatchConfig

/-- Work under a token that is not cancelled ends with an empty queue. -/
theorem Ended.empty_of_active {token : Nat} {last : Progress τ σ ρ} {report : BatchReport ρ} (h : Ended token last report)
    (hactive : last.world.clock.forest.isCancelled token = false) : last.queue = [] := by
  rcases h with ⟨hempty, -⟩ | ⟨-, hcancelled, -⟩
  · exact hempty
  · rw [hactive] at hcancelled
    exact absurd hcancelled Bool.false_ne_true

variable [Quantity τ] {config : BatchConfig τ} {marked : Option (List String)} {input : List String}

/-- Rounds keep the files in line. -/
theorem Cuts.lined {start rest : List Queued} {sights : List (Sight τ)} (h : Cuts config start sights rest)
    (hstart : Lined marked input [] start) : Lined marked input ((config.handed sights).flatMap (·.files)) rest := by
  induction h with
  | none => exact hstart
  | @round sights queue before waiting view ih =>
      have hcut := ih.cut config view
      by_cases nothing : (config.cutFor view queue).taken = []
      · rw [nothing, List.map_nil, List.append_nil] at hcut
        rw [handed_append, handed_idle nothing, List.append_nil]
        exact hcut
      · rw [handed_append, handed_batch nothing, List.flatMap_append, List.flatMap_singleton]
        exact hcut

variable {handler : Batch τ → Nat → Act τ σ ρ} {token : Nat} {budget : Option (Amount τ)}
  {first last : Progress τ σ ρ} {sights : List (Sight τ)}

theorem Stretch.excused (h : Stretch config handler token budget first sights last) (hindex : first.index = 0)
    (hreport : first.report = .empty) (hlined : Lined marked input [] first.queue) :
    Excused marked (config.handed sights) last.index last.report := by
  induction h with
  | start =>
      rw [hindex, hreport]
      exact .start marked
  | @round sights here next view seen before look step ih =>
      have hranks := ((before.cuts hindex).1.lined hlined).ranks
      have hshed := ih.shed (hranks.omitted config view)
      obtain ⟨-, -, ⟨nothing, hnext, hreport, -⟩ | ⟨something, hnext, result, overran, hreport, -⟩⟩ := step.spec look
      · rw [handed_append, handed_idle nothing, List.append_nil, hnext, hreport]
        exact hshed
      · rw [handed_append, handed_batch something, hnext, hreport]
        exact hshed.enter rfl result overran

variable {files : List String} {critical : Option (List String)} {world after : World τ σ}
  {outcome : Except Fault (BatchReport ρ)}

/-- **Critical files come first and are never shed.**  Whatever the handler does, however the memory changes, and
however the run ends: the files of the batches that were handed over are critical ones, in the order of the input,
and then others, which come only after all critical ones.  When the run returns and its token is not cancelled, every
critical file was handed over, and was left out only with a batch that timed out; otherwise it may also have been left
in the queue when the cancellation was seen. -/
theorem critical_first (h : (config.process files handler token critical budget).on world = (outcome, after)) :
    (∃ fault, order world.disk files critical = .error fault ∧ outcome = .error fault ∧
        (config.process files (announcing handler) token critical budget).on (world.watched []) =
          (outcome, after.watched [])) ∨
      ∃ input marked batches, world.disk.normalizeAll files = .ok input ∧
        critical.mapM world.disk.normalizeAll = .ok marked ∧
        (config.process files (announcing handler) token critical budget).on (world.watched []) =
          (outcome, after.watched batches) ∧
        CriticalFirst marked input (batches.flatMap (·.files)) ∧
        ∀ report, outcome = .ok report →
          ∃ last, ReflTransGen (Round config handler token budget) (opening (rank input marked) world) last ∧
            last.world = after ∧ Ended token last report ∧
            (after.clock.forest.isCancelled token = false →
              ∀ file ∈ input, isMarked marked file = true → ∃ batch ∈ batches, file ∈ batch.files) ∧
            ∀ file ∈ report.omitted, isMarked marked file = true →
              (∃ batch ∈ batches, file ∈ batch.files ∧ batch.index ∈ report.timedOut) ∨
                after.clock.forest.isCancelled token = true ∧ file ∈ last.queue.map (·.ranked.file) := by
  cases horder : order world.disk files critical with
  | error fault =>
      have horder' : order (world.watched ([] : List (Batch τ))).disk files critical = .error fault := horder
      rw [process_error horder] at h
      obtain ⟨rfl, rfl⟩ := Prod.mk.inj h
      exact Or.inl ⟨fault, rfl, rfl, process_error horder'⟩
  | ok ordered =>
      obtain ⟨input, marked, hinput, hmarked, rfl⟩ := order_ok_iff.mp horder
      obtain ⟨sights, htold, hannounced⟩ := process_told horder h
      have hstart : Lined marked input [] (opening (ρ := ρ) (rank input marked) world).queue := .start marked input
      refine Or.inr ⟨input, marked, config.handed sights, hinput, hmarked, hannounced, ?_, ?_⟩
      · obtain ⟨rest, hcuts⟩ := htold.cuts rfl
        exact (hcuts.lined hstart).criticalFirst
      · rintro report rfl
        obtain @⟨before, final, last, rfl, rounds, finish⟩ := htold
        cases finish with
        | ended reports =>
            have hlined := (rounds.cuts rfl).1.lined hstart
            have hexcused := rounds.excused rfl rfl hstart
            rw [List.append_nil]
            refine ⟨last, rounds.rounds, rfl, reports, fun hactive file hfile hmark => ?_, fun file hfile hmark => ?_⟩
            · exact List.mem_flatMap.mp (hlined.handed_of_empty (reports.empty_of_active hactive) hfile hmark)
            · rcases reports with ⟨-, rfl⟩ | ⟨-, hcancelled, rfl⟩
              · exact Or.inl ((hexcused.omitted file hmark).mp hfile)
              · rcases List.mem_append.mp hfile with hbefore | hwaiting
                · exact Or.inl ((hexcused.omitted file hmark).mp hbefore)
                · exact Or.inr ⟨hcancelled, hwaiting⟩

end BatchConfig

/-- A world whose memory is all in use. -/
def World.cramped : World Rat Unit :=
  { World.still (.empty [] []) () with
    memory := fun _ => 1048576
    monitor := some ⟨⟨true, 1, 1, 1, 1, 2⟩, [], none, none, false⟩ }

/-- A handler that does nothing. -/
def idling (_batch : Batch Rat) (_own : Nat) : Act Rat Unit Unit := pure ()

-- What names hold, and what a disk holds, is evaluated by equations: unfolding texts is slow.
attribute [local irreducible] Path.hasNul Disk.isDirectory Disk.present

/-- On its empty disk, files are what they are called. -/
theorem normalizeAll_cramped : World.cramped.disk.normalizeAll ["/a", "/b"] = .ok ["/a", "/b"] := by cbv

theorem mapM_normalizeAll_cramped : (some ["/b"]).mapM World.cramped.disk.normalizeAll = .ok (some ["/b"]) := by cbv

theorem order_cramped : order World.cramped.disk ["/a", "/b"] (some ["/b"]) = .ok [⟨"/b", .critical⟩, ⟨"/a", .deferrable⟩] :=
  order_ok_iff.mpr ⟨_, _, normalizeAll_cramped, mapM_normalizeAll_cramped, rfl⟩

/-- With all memory in use, the critical one of two files is handed over, and the other one is left out. -/
theorem critical_first_cramped :
    ∃ report after, ∃ batches : List (Batch Rat),
      (BatchConfig.process ⟨2, 2, 1, 0, 1, 0⟩ ["/a", "/b"] idling 0 (some ["/b"]) none).on World.cramped =
        (.ok report, after) ∧
      report.omitted = ["/a"] ∧ CriticalFirst (some ["/b"]) ["/a", "/b"] (batches.flatMap Batch.files) ∧
      ∃ batch ∈ batches, "/b" ∈ batch.files := by
  have hrun : (fun run => (run.1.toOption.map BatchReport.omitted, run.2.clock.forest.isCancelled 0))
      ((BatchConfig.process ⟨2, 2, 1, 0, 1, 0⟩ ["/a", "/b"] idling 0 (some ["/b"]) none).on World.cramped) =
      (some ["/a"], false) := by
    rw [BatchConfig.process_opens order_cramped]
    cbv
  rcases h : (BatchConfig.process ⟨2, 2, 1, 0, 1, 0⟩ ["/a", "/b"] idling 0 (some ["/b"]) none).on World.cramped with
    ⟨outcome, after⟩
  rw [h] at hrun
  obtain ⟨homitted, hactive⟩ := Prod.mk.inj hrun
  cases outcome with
  | error fault => cases homitted
  | ok report =>
      obtain ⟨fault, -, hfault, -⟩ | ⟨input, marked, batches, hinput, hmarked, -, hfirst, hreports⟩ :=
        BatchConfig.critical_first h
      · cases hfault
      · cases normalizeAll_cramped.symm.trans hinput
        cases mapM_normalizeAll_cramped.symm.trans hmarked
        obtain ⟨last, -, -, -, hall, -⟩ := hreports report rfl
        exact ⟨report, after, batches, rfl, Option.some.inj homitted, hfirst, hall hactive "/b" (by simp) rfl⟩

end FixFirst
