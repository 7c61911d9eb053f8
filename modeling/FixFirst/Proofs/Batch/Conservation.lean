import Mathlib
import FixFirst.Proofs.Batch.Rounds

/-!
# Batched work loses no file

Every file of the input ends up processed or omitted, once.  Files move between the queue, the
batch of a round and the two lists of the report; what stays the same is, for each file, how often
it occurs in the queue and in the report together.  The handler sees a file in at most one batch.

## Main definitions

* `kept` — the calls whose results were kept.
* `Accounted` — the invariant of the rounds, about the report and the notes of a watched handler.

## Main statements

* `count_cut` — a round puts every file of the queue into one place.
* `process_conserves` — the account of a whole run.
-/

namespace FixFirst

open Relation

/-! ### One cut of the queue -/

/-- While memory is scarce, a file of the front is taken, left out, or put off. -/
theorem count_front (limit : Nat) (imminent : Bool) (front : List Queued) (file : String) :
    (((front.filter Queued.isCritical).map (·.ranked)).map (·.file)).count file +
        ((front.filter (Queued.isLeftOut limit imminent)).map (·.ranked.file)).count file +
      (((front.filter (Queued.isPutOff limit imminent)).map Queued.putOff).map (·.ranked.file)).count file =
    (front.map (·.ranked.file)).count file := by
  induction front with
  | nil => simp
  | cons queued rest ih =>
      cases hc : queued.isCritical with
      | true =>
          have hl : queued.isLeftOut limit imminent = false := by simp [Queued.isLeftOut, hc]
          have hp : queued.isPutOff limit imminent = false := by simp [Queued.isPutOff, hc]
          simp only [List.filter_cons, hc, hl, hp, if_true, Bool.false_eq_true, if_false, List.map_cons,
            List.count_cons]
          omega
      | false =>
          by_cases hd : imminent = true ∨ limit ≤ queued.deferrals
          · have hl : queued.isLeftOut limit imminent = true := by
              simpa [Queued.isLeftOut, hc] using hd
            have hp : queued.isPutOff limit imminent = false := by
              simp only [Queued.isPutOff, hc, Bool.not_false, Bool.true_and, Bool.and_eq_false_iff,
                Bool.not_eq_false', decide_eq_false_iff_not, Nat.not_lt]
              exact hd
            simp only [List.filter_cons, hc, hl, hp, if_true, Bool.false_eq_true, if_false, List.map_cons,
              List.count_cons]
            omega
          · have hl : queued.isLeftOut limit imminent = false := by
              simpa [Queued.isLeftOut, hc] using hd
            have hp : queued.isPutOff limit imminent = true := by
              simpa [Queued.isPutOff, hc] using hd
            have hf : queued.putOff.ranked = queued.ranked := rfl
            simp only [List.filter_cons, hc, hl, hp, if_true, Bool.false_eq_true, if_false, List.map_cons,
              List.count_cons, hf]
            omega

/-- A round puts every file of the queue into one place: the batch, the omitted files, or the queue
of the next round. -/
theorem count_cut (limit : Nat) (scarce imminent : Bool) (size : Nat) (queue : List Queued) (file : String) :
    let round := cut limit scarce imminent size queue
    (round.taken.map (·.file)).count file + round.omitted.count file +
        (round.rest.map (·.ranked.file)).count file =
      (queue.map (·.ranked.file)).count file := by
  intro round
  have hsplit : (queue.map (·.ranked.file)).count file =
      ((queue.take (max 1 size)).map (·.ranked.file)).count file +
        ((queue.drop (max 1 size)).map (·.ranked.file)).count file := by
    rw [← List.count_append, ← List.map_append, List.take_append_drop]
  rw [hsplit]
  cases scarce with
  | false => simp [round, cut, Function.comp_def]
  | true =>
      have hfront := count_front limit imminent (queue.take (max 1 size)) file
      simp only [round, cut, if_true, List.map_append, List.count_append]
      omega

theorem BatchConfig.count_cutFor {τ : Type} (config : BatchConfig τ) (view : Outlook τ) (queue : List Queued) (file : String) :
    ((config.cutFor view queue).taken.map (·.file)).count file + (config.cutFor view queue).omitted.count file +
        ((config.cutFor view queue).rest.map (·.ranked.file)).count file =
      (queue.map (·.ranked.file)).count file :=
  count_cut config.maxDeferrals view.scarce view.imminent view.size queue file

/-! ### The invariant of the rounds -/

variable {τ σ ρ : Type}

/-- The calls whose results were kept. -/
def kept (report : BatchReport ρ) (calls : List (Batch τ × ρ)) : List (Batch τ × ρ) :=
  calls.filter fun call => !report.timedOut.contains call.1.index

/-- What is true between two rounds of work on `input`: the report and the notes on the calls of the
handler account for every file. -/
structure Accounted (input : List String) (progress : Progress τ (List (Batch τ × ρ) × σ) ρ) : Prop where
  conserved : ∀ file, progress.report.processed.count file + progress.report.omitted.count file +
    (progress.queue.map (·.ranked.file)).count file = input.count file
  once : ∀ file, (progress.world.outside.1.flatMap (·.1.files)).count file ≤
    progress.report.processed.count file + progress.report.omitted.count file
  indexed : progress.world.outside.1.map (·.1.index) = List.range progress.index
  nonempty : ∀ call ∈ progress.world.outside.1, call.1.files ≠ []
  results : progress.report.results = (kept progress.report progress.world.outside.1).map (·.2)
  processed : progress.report.processed = (kept progress.report progress.world.outside.1).flatMap (·.1.files)
  ascending : progress.report.timedOut.Pairwise (· < ·)
  below : ∀ index ∈ progress.report.timedOut, index < progress.index
  left : ∀ call ∈ progress.world.outside.1, call.1.index ∈ progress.report.timedOut →
    ∀ file ∈ call.1.files, file ∈ progress.report.omitted
  counted : progress.report.results.length + progress.report.timedOut.length = progress.world.outside.1.length

namespace Accounted

variable {input : List String} {progress : Progress τ (List (Batch τ × ρ) × σ) ρ}

theorem index_lt (h : Accounted input progress) {call : Batch τ × ρ} (hc : call ∈ progress.world.outside.1) :
    call.1.index < progress.index := by
  have hm : call.1.index ∈ progress.world.outside.1.map (·.1.index) := List.mem_map_of_mem hc
  rw [h.indexed] at hm
  exact List.mem_range.mp hm

/-- At the start everything is in the queue and nothing was handed over. -/
theorem start {queue : List Queued} {world : World τ (List (Batch τ × ρ) × σ)}
    (hw : world.outside.1 = []) (hq : ∀ file, (queue.map (·.ranked.file)).count file = input.count file) :
    Accounted input ⟨queue, 0, BatchReport.empty, world⟩ where
  conserved file := by simp [BatchReport.empty, hq]
  once file := by simp [hw]
  indexed := by simp [hw]
  nonempty := by simp [hw]
  results := by simp [BatchReport.empty, hw, kept]
  processed := by simp [BatchReport.empty, hw, kept]
  ascending := by simp [BatchReport.empty]
  below := by simp [BatchReport.empty]
  left := by simp [hw]
  counted := by simp [BatchReport.empty, hw]

/-- A round first takes files off the queue: some are left out, the others stay to be handled. -/
theorem shed {queue waiting : List Queued} {index : Nat} {report : BatchReport ρ} {round : Cut}
    {world seen : World τ (List (Batch τ × ρ) × σ)} (h : Accounted input ⟨queue, index, report, world⟩)
    (hw : seen.outside = world.outside)
    (hq : ∀ file, round.omitted.count file + (waiting.map (·.ranked.file)).count file =
      (queue.map (·.ranked.file)).count file) :
    Accounted input ⟨waiting, index, report.shed round, seen⟩ where
  conserved file := by
    have hc := h.conserved file
    have hr := hq file
    simp only [BatchReport.shed, List.count_append] at hc ⊢
    omega
  once file := by
    have ho := h.once file
    simp only [BatchReport.shed, List.count_append, hw] at ho ⊢
    omega
  indexed := by rw [hw]; exact h.indexed
  nonempty := by rw [hw]; exact h.nonempty
  results := by rw [hw]; exact h.results
  processed := by rw [hw]; exact h.processed
  ascending := h.ascending
  below := h.below
  left := by
    rw [hw]
    intro call hcall ht file hf
    exact List.mem_append_left _ (h.left call hcall ht file hf)
  counted := by rw [hw]; exact h.counted

/-- The kept calls after a batch overran its budget. -/
theorem kept_overran {report : BatchReport ρ} {calls : List (Batch τ × ρ)} {batch : Batch τ} (result : ρ)
    (hlt : ∀ call ∈ calls, call.1.index < batch.index) :
    kept (report.enter batch result true) (calls ++ [(batch, result)]) = kept report calls := by
  have hold : calls.filter (fun call => !(report.timedOut ++ [batch.index]).contains call.1.index) =
      calls.filter fun call => !report.timedOut.contains call.1.index := by
    refine List.filter_congr fun call hcall => ?_
    have hne : call.1.index ≠ batch.index := Nat.ne_of_lt (hlt call hcall)
    simp [hne]
  simp only [kept, BatchReport.enter, if_true, List.filter_append, hold]
  simp

/-- The kept calls after a batch came back in time. -/
theorem kept_in_time {report : BatchReport ρ} {calls : List (Batch τ × ρ)} {batch : Batch τ} (result : ρ)
    (hnew : batch.index ∉ report.timedOut) :
    kept (report.enter batch result false) (calls ++ [(batch, result)]) = kept report calls ++ [(batch, result)] := by
  simp [kept, BatchReport.enter, hnew]

/-- A round then hands the files that it took over, and enters the answer into the report. -/
theorem enter {taken : List Ranked} {rest : List Queued} {index : Nat} {report : BatchReport ρ}
    {batch : Batch τ} {result : ρ} {overran : Bool} {seen after : World τ (List (Batch τ × ρ) × σ)}
    (h : Accounted input ⟨taken.map (⟨·, 0⟩) ++ rest, index, report, seen⟩)
    (hindex : batch.index = index) (hfiles : batch.files = taken.map (·.file)) (htaken : taken ≠ [])
    (hcalls : after.outside.1 = seen.outside.1 ++ [(batch, result)]) :
    Accounted input ⟨rest, index + 1, report.enter batch result overran, after⟩ := by
  have hlt : ∀ call ∈ seen.outside.1, call.1.index < batch.index := fun call hcall => by
    rw [hindex]
    exact h.index_lt hcall
  have hnew : batch.index ∉ report.timedOut := fun hin => by
    have hb := h.below batch.index hin
    rw [hindex] at hb
    exact Nat.lt_irrefl _ hb
  have hconserved : ∀ file, (report.enter batch result overran).processed.count file +
      (report.enter batch result overran).omitted.count file =
        report.processed.count file + report.omitted.count file + batch.files.count file := fun file => by
    cases overran <;> simp only [BatchReport.enter, if_true, Bool.false_eq_true, if_false, List.count_append] <;> omega
  have hsum : ∀ file, batch.files.count file + (rest.map (·.ranked.file)).count file =
      ((taken.map (Queued.mk · 0) ++ rest).map (·.ranked.file)).count file := fun file => by
    rw [hfiles, List.map_append, List.count_append, List.map_map]
    rfl
  have hlength : report.results.length + report.timedOut.length = seen.outside.1.length := h.counted
  exact {
    conserved := fun file => by rw [hconserved file, ← h.conserved file, ← hsum file, Nat.add_assoc]
    once := fun file => by
      rw [hconserved file, hcalls, List.flatMap_append, List.count_append, List.flatMap_singleton]
      exact Nat.add_le_add_right (h.once file) _
    indexed := by rw [hcalls, List.map_append, h.indexed, List.range_succ, List.map_singleton, hindex]
    nonempty := by
      rw [hcalls]
      intro call hcall
      rcases List.mem_append.mp hcall with hold | hlast
      · exact h.nonempty call hold
      · rw [List.mem_singleton.mp hlast, hfiles]
        simpa using htaken
    results := by
      cases overran with
      | true => rw [hcalls, kept_overran result hlt, ← h.results]; rfl
      | false => rw [hcalls, kept_in_time result hnew, List.map_append, ← h.results]; rfl
    processed := by
      cases overran with
      | true => rw [hcalls, kept_overran result hlt, ← h.processed]; rfl
      | false =>
          rw [hcalls, kept_in_time result hnew, List.flatMap_append, ← h.processed, List.flatMap_singleton]
          rfl
    ascending := by
      cases overran with
      | true =>
          refine List.pairwise_append.mpr ⟨h.ascending, List.pairwise_singleton _ _, ?_⟩
          intro first hfirst second hsecond
          rw [List.mem_singleton.mp hsecond, hindex]
          exact h.below first hfirst
      | false => exact h.ascending
    below := by
      intro late hlate
      cases overran with
      | true =>
          rcases List.mem_append.mp hlate with hold | hlast
          · exact Nat.lt_succ_of_lt (h.below late hold)
          · rw [List.mem_singleton.mp hlast, hindex]
            exact Nat.lt_succ_self index
      | false => exact Nat.lt_succ_of_lt (h.below late hlate)
    left := by
      rw [hcalls]
      intro call hcall hlate file hfile
      cases overran with
      | true =>
          rcases List.mem_append.mp hcall with hold | hlast
          · have hne : call.1.index ≠ batch.index := Nat.ne_of_lt (hlt call hold)
            have hbefore : call.1.index ∈ report.timedOut := by
              simpa [BatchReport.enter, hne] using hlate
            exact List.mem_append_left _ (h.left call hold hbefore file hfile)
          · rw [List.mem_singleton.mp hlast] at hfile
            exact List.mem_append_right _ hfile
      | false =>
          rcases List.mem_append.mp hcall with hold | hlast
          · exact h.left call hold hlate file hfile
          · rw [List.mem_singleton.mp hlast] at hlate
            exact absurd hlate hnew
    counted := by
      rw [hcalls]
      cases overran <;> simp [BatchReport.enter] <;> omega }

/-- What is accounted for between two rounds is accounted for when the work ends there. -/
theorem ended {last : Progress τ (List (Batch τ × ρ) × σ) ρ} {token : Nat} {report : BatchReport ρ}
    (h : Accounted input last) (hend : BatchConfig.Ended token last report) :
    Accounted input ⟨[], last.index, report, last.world⟩ := by
  rcases hend with ⟨hq, rfl⟩ | ⟨-, -, rfl⟩
  · obtain ⟨queue, index, report, world⟩ := last
    subst hq
    exact h
  · refine ⟨fun file => ?_, fun file => ?_, h.indexed, h.nonempty, h.results, h.processed, h.ascending, h.below, ?_,
      h.counted⟩
    · have hc := h.conserved file
      simp only [BatchReport.cutShort, List.count_append, List.map_nil, List.count_nil]
      omega
    · have ho := h.once file
      simp only [BatchReport.cutShort, List.count_append]
      omega
    · intro call hcall hlate file hfile
      exact List.mem_append_left _ (h.left call hcall hlate file hfile)

variable [Quantity τ] {config : BatchConfig τ} {handler : Batch τ → Nat → Act τ σ ρ} {token : Nat}
  {budget : Option (Amount τ)} {first last next : Progress τ (List (Batch τ × ρ) × σ) ρ}

/-- A watched handler adds one note. -/
theorem notes_budgeted {limit : τ} {batch : Batch τ} {seen after : World τ (List (Batch τ × ρ) × σ)} {result : ρ}
    {overran : Bool}
    (h : (World.budgeted token limit (noting handler batch)).on seen = (.ok (result, overran), after)) :
    after.outside.1 = seen.outside.1 ++ [(batch, result)] := by
  obtain ⟨own, opened, done, -, hwork, rfl, -⟩ := World.budgeted_ok h
  have heq := BatchConfig.on_noting handler batch own { seen with clock := opened, outside := seen.outside.2 } seen.outside.1
  have hnoted := heq.symm.trans hwork
  rcases hcall : (handler batch own).on { seen with clock := opened, outside := seen.outside.2 } with ⟨outcome, left⟩
  rw [hcall] at hnoted
  cases outcome with
  | ok answer =>
      cases hnoted
      rfl
  | error fault => cases hnoted

/-- One round keeps the account. -/
theorem round (h : Accounted input first) (hround : BatchConfig.Round config (noting handler) token budget first next) :
    Accounted input next := by
  cases hround with
  | @idle queue index report world seen view waiting going look nothing =>
      obtain ⟨monitor, readings, -, rfl⟩ := World.sampled_outlook look
      refine h.shed rfl fun file => ?_
      have hcut := config.count_cutFor view queue file
      simpa only [nothing, List.map_nil, List.count_nil, Nat.zero_add] using hcut
  | @handed queue index report world seen after view result overran waiting going look something work =>
      have hshed : Accounted input ⟨(config.cutFor view queue).taken.map (Queued.mk · 0) ++
          (config.cutFor view queue).rest, index, report.shed (config.cutFor view queue), seen⟩ := by
        obtain ⟨monitor, readings, -, rfl⟩ := World.sampled_outlook look
        refine h.shed rfl fun file => ?_
        have hcut := config.count_cutFor view queue file
        simp only [List.map_append, List.count_append, List.map_map, Function.comp_def, ← hcut]
        omega
      exact hshed.enter rfl rfl something (notes_budgeted work)

/-- Any number of rounds keep the account. -/
theorem rounds (h : Accounted input first)
    (hrounds : ReflTransGen (BatchConfig.Round config (noting handler) token budget) first last) : Accounted input last := by
  induction hrounds with
  | refl => exact h
  | tail _ step ih => exact ih.round step

end Accounted

/-! ### A whole run -/

theorem nodup_normalizeAll {disk : Disk} {files input : List String} (h : disk.normalizeAll files = .ok input) :
    input.Nodup := by
  unfold Disk.normalizeAll at h
  cases hm : files.mapM disk.normalize with
  | error fault =>
      rw [hm] at h
      cases h
  | ok all =>
      rw [hm] at h
      cases h
      exact nodup_firsts all

/-- Putting critical files first neither adds nor drops a file. -/
theorem count_rank (files : List String) (critical : Option (List String)) (file : String) :
    ((rank files critical).map (·.file)).count file = files.count file := by
  cases critical with
  | none => simp [rank, Function.comp_def]
  | some marked =>
      have hsplit := List.countP_eq_countP_filter_add files (· == file) fun entry => marked.contains entry
      simp only [rank, List.map_append, List.map_map, Function.comp_def, List.map_id', List.count_append]
      simp only [List.count]
      rw [hsplit]

theorem order_ok {disk : Disk} {files : List String} {critical : Option (List String)} {ordered : List Ranked}
    (h : order disk files critical = .ok ordered) :
    ∃ input, disk.normalizeAll files = .ok input ∧
      ∀ file, (ordered.map (·.file)).count file = input.count file := by
  unfold order at h
  cases hn : disk.normalizeAll files with
  | error fault =>
      rw [hn] at h
      cases h
  | ok input =>
      refine ⟨input, rfl, fun file => ?_⟩
      rw [hn] at h
      cases critical with
      | none =>
          cases h
          exact count_rank input none file
      | some marked =>
          cases hm : disk.normalizeAll marked with
          | error fault =>
              simp only [hm] at h
              cases h
          | ok known =>
              simp only [hm] at h
              cases h
              exact count_rank input (some known) file

theorem BatchConfig.on_queue (files : List String) (critical : Option (List String)) (world : World τ σ) :
    (BatchConfig.queue files critical).on world = (order world.disk files critical, world) := by
  unfold BatchConfig.queue
  rw [Act.on_bind_of_ok (Act.on_get world), Act.on_ofExcept]

theorem BatchConfig.queue_ok {files : List String} {critical : Option (List String)} {world : World τ σ}
    {ordered : List Ranked} (horder : order world.disk files critical = .ok ordered) :
    (BatchConfig.queue files critical).on world = (.ok ordered, world) := by
  rw [BatchConfig.on_queue, horder]

variable [Quantity τ] {config : BatchConfig τ} {handler : Batch τ → Nat → Act τ σ ρ} {token : Nat}
  {budget : Option (Amount τ)}

/-- Batched work that returns is a sequence of rounds on the files in order. -/
theorem BatchConfig.process_ok {files : List String} {critical : Option (List String)} {world after : World τ σ}
    {report : BatchReport ρ} (h : (config.process files handler token critical budget).on world = (.ok report, after)) :
    ∃ ordered last, order world.disk files critical = .ok ordered ∧
      ReflTransGen (BatchConfig.Round config handler token budget) ⟨ordered.map (Queued.mk · 0), 0, .empty, world⟩ last ∧
      BatchConfig.Ended token last report ∧ last.world = after := by
  obtain ⟨ordered, middle, hqueue, hwork⟩ := Act.on_bind_ok.mp h
  rw [BatchConfig.on_queue] at hqueue
  obtain ⟨horder, rfl⟩ := Prod.mk.inj hqueue
  have hproceed : config.proceed handler token budget ⟨ordered.map (Queued.mk · 0), 0, .empty, world⟩ =
      (.ok report, after) := hwork
  obtain ⟨last, hrounds, hend, hlast⟩ := BatchConfig.rounds_ok hproceed
  exact ⟨ordered, last, horder, hrounds, hend, hlast⟩

/-- Batched work that returns comes to the same when it is watched, and every file is accounted for. -/
theorem process_watched {files : List String} {critical : Option (List String)} {world after : World τ σ}
    {report : BatchReport ρ} (h : (config.process files handler token critical budget).on world = (.ok report, after)) :
    ∃ input calls index, world.disk.normalizeAll files = .ok input ∧
      (config.process files (noting handler) token critical budget).on (world.watched []) =
        (.ok report, after.watched calls) ∧
      Accounted input ⟨[], index, report, after.watched calls⟩ := by
  obtain ⟨ordered, last, horder, hrounds, hend, rfl⟩ := BatchConfig.process_ok h
  obtain ⟨input, hinput, hcount⟩ := order_ok horder
  obtain ⟨calls, hcalls⟩ := BatchConfig.rounds_noting [] hrounds
  have hend' : BatchConfig.Ended token (last.watched calls) report := hend
  refine ⟨input, calls, last.index, hinput, ?_, ?_⟩
  · refine Act.on_bind_ok.mpr ⟨ordered, world.watched [], ?_, ?_⟩
    · rw [BatchConfig.unwatched_queue files critical world [], BatchConfig.on_queue, horder]
    · have hrun := (BatchConfig.proceed_eq_of_rounds hcalls).trans (BatchConfig.proceed_of_ended hend')
      exact hrun
  · have hstart : Accounted input
        (Progress.watched ⟨ordered.map (Queued.mk · 0), 0, (BatchReport.empty : BatchReport ρ), world⟩ []) := by
      refine Accounted.start rfl fun file => ?_
      rw [List.map_map, ← hcount file]
      rfl
    exact (hstart.rounds hcalls).ended hend'

/-- **No file is lost or handed over twice.**  When batched work returns, the same work with a watched
handler comes to the same report.  The processed files and the omitted ones are the input, each once.
Batches are numbered from zero, none is empty, and no two of them share a file.  The results and the
processed files are those of the kept calls, in order; the files of the other calls are omitted. -/
theorem process_conserves {files : List String} {critical : Option (List String)} {world after : World τ σ}
    {report : BatchReport ρ} (h : (config.process files handler token critical budget).on world = (.ok report, after)) :
    ∃ input calls, world.disk.normalizeAll files = .ok input ∧
      (config.process files (noting handler) token critical budget).on (world.watched []) =
        (.ok report, after.watched calls) ∧
      (report.processed ++ report.omitted).Perm input ∧
      (report.processed ++ report.omitted).Nodup ∧
      (calls.flatMap (·.1.files)).Nodup ∧
      calls.map (·.1.index) = List.range calls.length ∧
      (∀ call ∈ calls, call.1.files ≠ []) ∧
      report.results = (kept report calls).map (·.2) ∧
      report.processed = (kept report calls).flatMap (·.1.files) ∧
      report.timedOut.Pairwise (· < ·) ∧
      (∀ index ∈ report.timedOut, ∃ call ∈ calls, call.1.index = index ∧
        ∀ file ∈ call.1.files, file ∈ report.omitted) ∧
      report.results.length + report.timedOut.length = calls.length := by
  obtain ⟨input, calls, index, hinput, hwatched, hacc⟩ := process_watched h
  have hnodup : input.Nodup := nodup_normalizeAll hinput
  have hperm : (report.processed ++ report.omitted).Perm input := by
    rw [List.perm_iff_count]
    intro file
    have hc := hacc.conserved file
    simpa [List.count_append] using hc
  have honce : (calls.flatMap (·.1.files)).Nodup := by
    rw [List.nodup_iff_count]
    intro file
    have hle := List.nodup_iff_count.mp (hperm.nodup_iff.mpr hnodup) file
    rw [List.count_append] at hle
    exact Nat.le_trans (hacc.once file) hle
  have hindex : index = calls.length := by
    have hl := congrArg List.length hacc.indexed
    simpa [World.watched] using hl.symm
  have hindexed : calls.map (·.1.index) = List.range calls.length := hindex ▸ hacc.indexed
  refine ⟨input, calls, hinput, hwatched, hperm, hperm.nodup_iff.mpr hnodup, honce, hindexed, hacc.nonempty,
    hacc.results, hacc.processed, hacc.ascending, ?_, hacc.counted⟩
  intro late hlate
  have hin : late ∈ calls.map (·.1.index) := by
    rw [hindexed, ← hindex]
    exact List.mem_range.mpr (hacc.below late hlate)
  obtain ⟨call, hcall, rfl⟩ := List.mem_map.mp hin
  exact ⟨call, hcall, rfl, hacc.left call hcall hlate⟩

/-- A handler that takes two seconds for its first batch. -/
def slowStart (batch : Batch Rat) (_own : Nat) : Act Rat Unit Unit :=
  if batch.index = 0 then World.moveClock (·.advance 2) else pure ()

-- What names hold, and what a disk holds, is evaluated by equations: unfolding texts is slow.
attribute [local irreducible] Path.hasNul Disk.isDirectory Disk.present

/-- Work on two files, one at a time with a second for each, in which the first batch is late. -/
theorem process_conserves_late :
    ∃ report after, ∃ calls : List (Batch Rat × Unit),
      (BatchConfig.process ⟨1, 1, 1, 0, 2, 0⟩ ["/a", "/b", "/a"] slowStart 0 none none).on
        (World.still (.empty [] []) ()) = (.ok report, after) ∧
      report.timedOut = [0] ∧ report.omitted = ["/a"] ∧
      report.processed = (kept report calls).flatMap (·.1.files) ∧
      report.results.length + report.timedOut.length = calls.length := by
  have hrun : ((BatchConfig.process ⟨1, 1, 1, 0, 2, 0⟩ ["/a", "/b", "/a"] slowStart 0 none none).on
        (World.still (.empty [] []) ())).1.toOption.map (fun report => (report.timedOut, report.omitted)) =
      some ([0], ["/a"]) := by
    cbv
  rcases h : (BatchConfig.process ⟨1, 1, 1, 0, 2, 0⟩ ["/a", "/b", "/a"] slowStart 0 none none).on
    (World.still (.empty [] []) ()) with ⟨outcome, after⟩
  rw [h] at hrun
  cases outcome with
  | error fault => cases hrun
  | ok report =>
      obtain ⟨htimed, homitted⟩ := Prod.mk.inj (Option.some.inj hrun)
      obtain ⟨input, calls, -, -, -, -, -, -, -, -, hprocessed, -, -, hlength⟩ := process_conserves h
      exact ⟨report, after, calls, rfl, htimed, homitted, hprocessed, hlength⟩

end FixFirst
