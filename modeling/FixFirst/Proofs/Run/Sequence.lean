import FixFirst.Proofs.Run.Accounting
import FixFirst.Proofs.Run.Silence

/-!
# The order of calls

All fix calls of a run come before its check calls.  An engine gets one fix call at most, on the files
that were admitted; and no check call asks it about a file that another one asked it about.  This
holds of all runs, whether they come to a report or not, and whatever engines do: they may fail,
cancel tokens and not come back.

## Main definitions

* `Advance` — how a run came to the end of its fix phase.
* `Runner.Fixes`, `Runner.Checks` — what the calls of each phase are.
* `Advance.InSequence` — what the calls of a run are.

## Main statements

* `Runner.called_fixFirst`, `Runner.called_checkPhase` — the calls of each phase.
* `Runner.called_launch` — the calls of a run up to the end of its phases.
* `fixes_before_checks` — the calls of a run.
-/

namespace FixFirst

open Act

variable {τ σ : Type} [Quantity τ]

namespace Runner

variable {runner : Runner τ σ}

/-! ### The fix phase -/

/-- What fix calls are: fixers are called on the admitted files, each at most once, and in their order if they are to
be called one after the other. -/
structure Fixes (runner : Runner τ σ) (files : List String) (disk : Disk) (admitted : List String) (calls : List Call) :
    Prop where
  each : ∀ call ∈ calls, runner.config.execution.fix = true ∧
    ∃ engine ∈ runner.engines, engine.canFix = true ∧ call = ⟨engine.name, .fix, admitted⟩
  once : (calls.map (·.engine)).Nodup
  inOrder : runner.config.execution.serialFix = true →
    (calls.map (·.engine)).Sublist (runner.engines.map (·.name))
  input : ∀ file ∈ admitted, ∃ text ∈ files, disk.normalize text = .ok file

omit [Quantity τ] in
theorem fixJobs_names (runner : Runner τ σ) (course : Course τ) (files : List String) :
    ((runner.fixJobs course files).map (·.engine.name)).Sublist (runner.engines.map (·.name)) := by
  unfold fixJobs
  rw [List.map_map]
  exact (List.filter_sublist.trans List.filter_sublist).map _

omit [Quantity τ] in
/-- The jobs of a fix phase are those of fixers. -/
theorem of_mem_fixJobs {course : Course τ} {files : List String} {job : Job τ σ} (hin : job ∈ runner.fixJobs course files) :
    ∃ engine ∈ runner.engines, engine.canFix = true ∧ job = ⟨engine, .fix, files⟩ := by
  obtain ⟨engine, hengine, rfl⟩ := List.mem_map.mp hin
  obtain ⟨havailable, hfix⟩ := List.mem_filter.mp hengine
  exact ⟨engine, (List.mem_filter.mp havailable).1, hfix, rfl⟩

/-- The calls that are made for some of the jobs of a fix phase. -/
theorem fixes_of_made (hnames : (runner.engines.map (·.name)).Nodup) (hwanted : runner.config.execution.fix = true)
    {files : List String} {critical : Option (List String)} {token : Nat} {course : Course τ} {admission : Admission τ}
    {world seen : World τ σ} (hadmits : (runner.config.batching.admission files critical token).on world = (.ok admission, seen))
    {made rest : List (Job τ σ)} (hmade : (made ++ rest).Perm (runner.fixJobs course admission.batch.files))
    (hserial : runner.config.execution.serialFix = true → made.Sublist (runner.fixJobs course admission.batch.files)) :
    runner.Fixes files world.disk admission.batch.files (made.map Job.asCall) := by
  obtain ⟨-, input, hinput, hsplit⟩ := BatchConfig.admission_ok hadmits
  have hengines : (made.map Job.asCall).map (·.engine) = made.map (·.engine.name) := by
    rw [List.map_map]
    rfl
  have hjobs := fixJobs_names runner course admission.batch.files
  refine ⟨fun call hin => ?_, ?_, fun hinOrder => ?_, fun file hfile => ?_⟩
  · obtain ⟨job, hjob, rfl⟩ := List.mem_map.mp hin
    obtain ⟨engine, hengine, hfix, rfl⟩ := of_mem_fixJobs (hmade.subset (List.mem_append_left _ hjob))
    exact ⟨hwanted, engine, hengine, hfix, rfl⟩
  · rw [hengines]
    have hboth := (hmade.map (·.engine.name)).nodup_iff.mpr (hnames.sublist hjobs)
    rw [List.map_append] at hboth
    exact (List.nodup_append.mp hboth).1
  · rw [hengines]
    exact ((hserial hinOrder).map _).trans hjobs
  · exact Disk.exists_of_mem_normalizeAll hinput ((hsplit file).mpr (Or.inl hfile))

/-- The calls of the work of a fix phase on admitted files, whatever it comes to. -/
theorem called_fixWork (hnames : (runner.engines.map (·.name)).Nodup) (hwanted : runner.config.execution.fix = true)
    (hdiscreet : ∀ engine ∈ runner.engines, engine.Discreet)
    {files : List String} {critical : Option (List String)} {token : Nat} {course : Course τ} {admission : Admission τ}
    {world seen : World τ σ} (hadmits : (runner.config.batching.admission files critical token).on world = (.ok admission, seen))
    (own : Nat) (opened : World τ σ) :
    ∃ calls, opened.Called ((runner.fixWork course admission.batch.files own).on opened).2 calls ∧
      runner.Fixes files world.disk admission.batch.files calls := by
  have hnone : runner.Fixes files world.disk admission.batch.files [] :=
    fixes_of_made hnames hwanted hadmits (.refl ([] ++ runner.fixJobs course admission.batch.files)) fun _ =>
      List.nil_sublist _
  refine (plain_sampled (World.sampled_workers runner)).silent.called_bind hnone (fun workers ready => ?_) opened
  have hjobs : ∀ job ∈ runner.fixJobs course admission.batch.files, job.engine.Discreet := by
    intro job hjob
    obtain ⟨engine, hengine, -, rfl⟩ := of_mem_fixJobs hjob
    exact hdiscreet engine hengine
  obtain ⟨made, rest, hmade, hserial, hcalled⟩ := called_runJobs hjobs runner.grantsGrace runner.schedule own workers
    runner.config.execution.serialFix ready
  exact ⟨made.map Job.asCall, hcalled, fixes_of_made hnames hwanted hadmits hmade hserial⟩

omit [Quantity τ] in
theorem silent_said {world : World τ σ} {events : List (Event τ)}
    (h : ∀ event ∈ events, event.Spoken ∨ event = .entered .fix) : world.Silent (world.noted events) :=
  World.Called.noted world fun event hin => by
    rcases h event hin with hspoken | rfl
    · exact hspoken.plain
    · trivial

/-- The calls of a fix round. -/
theorem called_fixRound (hnames : (runner.engines.map (·.name)).Nodup)
    (hdiscreet : ∀ engine ∈ runner.engines, engine.Discreet) {files : List String} {critical : Option (List String)}
    {token : Nat} {round : FixRound τ} {world done : World τ σ}
    (h : (runner.fixRound files critical token).on world = (.ok round, done)) :
    ∃ calls, world.Called done calls ∧ runner.Fixes files world.disk round.admitted calls := by
  have hnothing : runner.Fixes files world.disk [] [] := by
    refine ⟨fun call hin => ?_, .nil, fun _ => List.nil_sublist _, fun file hin => ?_⟩
    · cases hin
    · cases hin
  cases fixRound_cases h with
  | none said => exact ⟨[], silent_said said, hnothing⟩
  | held wanted said admits =>
      obtain ⟨hsampled, -⟩ := BatchConfig.admission_ok admits
      exact ⟨[], (silent_said said).then_none (World.Called.sampled hsampled), hnothing⟩
  | @called events admission seen done outcomes overran wanted said admits works =>
      obtain ⟨hsampled, -⟩ := BatchConfig.admission_ok admits
      obtain ⟨calls, hcalled, hfixes⟩ := World.called_budgeted token admission.batch.timeout
        (runner.fixWork .initial admission.batch.files) (called_fixWork hnames wanted hdiscreet admits) seen
      rw [works] at hcalled
      exact ⟨calls, ((silent_said said).then_none (World.Called.sampled hsampled)).after_none hcalled, hfixes⟩

/-- The calls of a fix phase that ends are those of its round. -/
theorem called_fixFirst (hnames : (runner.engines.map (·.name)).Nodup)
    (hdiscreet : ∀ engine ∈ runner.engines, engine.Discreet) {files : List String} {critical : Option (List String)}
    {token : Nat} {fixed : Course τ} {world rested : World τ σ}
    (h : (runner.fixFirst files critical token).on world = (.ok fixed, rested)) :
    ∃ round done calls, (runner.fixRound files critical token).on world = (.ok round, done) ∧
      runner.Fixed round fixed ∧ world.Called rested calls ∧ runner.Fixes files world.disk round.admitted calls := by
  obtain ⟨round, done, events, hround, rfl, hspoken, hfixed⟩ := fixFirst_round h
  obtain ⟨calls, hcalled, hcalls⟩ := called_fixRound hnames hdiscreet hround
  exact ⟨round, done, calls, hround, hfixed, hcalled.then_none (World.Called.spoken done hspoken), hcalls⟩

/-- The calls of a fix phase that fails: none, or calls on the files that were admitted. -/
theorem called_fixPhase_error (hnames : (runner.engines.map (·.name)).Nodup) (hwanted : runner.config.execution.fix = true)
    (hdiscreet : ∀ engine ∈ runner.engines, engine.Discreet) {files : List String} {critical : Option (List String)}
    {token : Nat} {course : Course τ} {fault : Fault} {world rested : World τ σ}
    (h : (runner.fixPhase files critical token course).on world = (.error fault, rested)) :
    world.Silent rested ∨ ∃ admission seen calls,
      (runner.config.batching.admission files critical token).on world = (.ok admission, seen) ∧
      world.Called rested calls ∧ runner.Fixes files world.disk admission.batch.files calls := by
  unfold fixPhase at h
  simp only at h
  rw [Act.on_bind_of_ok (Act.on_isCancelled token world)] at h
  split at h
  · cases h
  · rcases on_bind_error h with h | ⟨admission, seen, hadmits, h⟩
    · exact Or.inl ((BatchConfig.plain_admission _ files critical token).of_on h).silent
    · have hseen := ((BatchConfig.plain_admission _ files critical token).of_on hadmits).silent
      split at h
      · cases h
      · rcases on_bind_error h with h | ⟨⟨outcomes, overran⟩, done, -, h⟩
        · obtain ⟨calls, hcalled, hfixes⟩ := World.called_budgeted token admission.batch.timeout
            (runner.fixWork course admission.batch.files) (called_fixWork hnames hwanted hdiscreet hadmits) seen
          have hrested : ((World.budgeted token admission.batch.timeout
              (runner.fixWork course admission.batch.files)).on seen).2 = rested := congrArg Prod.snd h
          rw [hrested] at hcalled
          exact Or.inr ⟨admission, seen, calls, hadmits, hseen.after_none hcalled, hfixes⟩
        · -- Nothing fails once the jobs have come back.
          obtain ⟨warned, hwarned, -⟩ := World.on_warnIf runner.config.output overran
            s!"fix phase exceeded its {Quantity.twoPlaces admission.batch.timeout}s budget" done
          rw [Act.on_bind_of_ok hwarned] at h
          obtain ⟨recorded, hrecorded, -⟩ := Course.on_record runner.config.output
            { course with deferred := admission.deferred, timedOut := course.timedOut || overran } outcomes
            (done.noted warned)
          rw [Act.on_bind_of_ok hrecorded] at h
          obtain ⟨marked, hmarked, -⟩ := Course.on_markRechecks runner.config.execution.serialFix
            ({ course with deferred := admission.deferred, timedOut := course.timedOut || overran }.takingAll outcomes) []
            (((runner.fixers course).map (·.precise)).zip outcomes) ((done.noted warned).noted recorded)
          cases h.symm.trans hmarked

/-- The calls of the fix phase of a run, if that fails. -/
theorem called_fixFirst_error (hnames : (runner.engines.map (·.name)).Nodup)
    (hdiscreet : ∀ engine ∈ runner.engines, engine.Discreet) {files : List String} {critical : Option (List String)}
    {token : Nat} {fault : Fault} {world rested : World τ σ}
    (h : (runner.fixFirst files critical token).on world = (.error fault, rested)) :
    world.Silent rested ∨ ∃ entries admission seen calls,
      (runner.config.batching.admission files critical token).on (world.noted entries) = (.ok admission, seen) ∧
      world.Called rested calls ∧ runner.Fixes files world.disk admission.batch.files calls := by
  unfold fixFirst at h
  split at h
  · rename_i hwanted
    rcases on_bind_error h with h | ⟨course, begun, henter, h⟩
    · exact Or.inl ((Course.plain_enter .initial .fix).of_on h).silent
    · have hbegun := ((Course.plain_enter .initial .fix).of_on henter).silent
      obtain ⟨tracker, entries, -, rfl, -⟩ := Course.enter_ok henter
      rcases called_fixPhase_error hnames hwanted hdiscreet h with hsilent | ⟨admission, seen, calls, hadmits, hcalled, hfixes⟩
      · exact Or.inl (hbegun.after_none hsilent)
      · exact Or.inr ⟨entries, admission, seen, calls, hadmits, hbegun.after_none hcalled, hfixes⟩
  · cases h

/-! ### The check phase -/

end Runner

/-- The pairs of an engine and a file that a call is about. -/
def Call.pairs (call : Call) : List (String × String) := call.files.map fun file => (call.engine, file)

namespace Runner

/-- What the calls of check batches of files are: engines that are available and did not fail are asked about
files of a batch, none of them twice about the same file. -/
structure Checks (runner : Runner τ σ) (course : Course τ) (files : List String) (calls : List Call) : Prop where
  each : ∀ call ∈ calls, ∃ engine ∈ runner.engines, ∃ batch, (∀ file ∈ batch, file ∈ files) ∧
    call = ⟨engine.name, .check, runner.filesFor course engine batch⟩ ∧
    course.unavailable.holds engine.name = false ∧ course.failed.holds engine.name = false
  once : (calls.flatMap Call.pairs).Nodup

variable {runner : Runner τ σ} {course : Course τ}

omit [Quantity τ] in
theorem filesFor_sublist (runner : Runner τ σ) (course : Course τ) (engine : Engine τ σ) (files : List String) :
    (runner.filesFor course engine files).Sublist files := by
  unfold filesFor
  split
  · exact List.filter_sublist
  · exact .refl files

namespace Checks

omit [Quantity τ] in
theorem nil {files : List String} : runner.Checks course files [] := by
  refine ⟨fun call hin => ?_, .nil⟩
  cases hin

omit [Quantity τ] in
theorem mem_files {files : List String} {calls : List Call} (h : runner.Checks course files calls) {call : Call}
    (hcall : call ∈ calls) {file : String} (hfile : file ∈ call.files) : file ∈ files := by
  obtain ⟨engine, -, batch, hbatch, rfl, -⟩ := h.each call hcall
  exact hbatch file ((runner.filesFor_sublist course engine batch).subset hfile)

omit [Quantity τ] in
/-- Calls about some files and calls about others. -/
theorem append {first second files : List String} {calls more : List Call} (h : runner.Checks course first calls)
    (h' : runner.Checks course second more) (hdisjoint : first.Disjoint second)
    (hfiles : ∀ file, file ∈ first ∨ file ∈ second → file ∈ files) : runner.Checks course files (calls ++ more) := by
  refine ⟨fun call hin => ?_, ?_⟩
  · rcases List.mem_append.mp hin with hcall | hcall
    · obtain ⟨engine, hengine, batch, hbatch, hsame⟩ := h.each call hcall
      exact ⟨engine, hengine, batch, fun file hfile => hfiles file (Or.inl (hbatch file hfile)), hsame⟩
    · obtain ⟨engine, hengine, batch, hbatch, hsame⟩ := h'.each call hcall
      exact ⟨engine, hengine, batch, fun file hfile => hfiles file (Or.inr (hbatch file hfile)), hsame⟩
  · rw [List.flatMap_append, List.nodup_append]
    refine ⟨h.once, h'.once, fun pair hpair other hother => ?_⟩
    rintro rfl
    obtain ⟨call, hcall, hin⟩ := List.mem_flatMap.mp hpair
    obtain ⟨file, hfile, rfl⟩ := List.mem_map.mp hin
    obtain ⟨call', hcall', hin'⟩ := List.mem_flatMap.mp hother
    obtain ⟨file', hfile', hsame⟩ := List.mem_map.mp hin'
    rw [← (Prod.mk.inj hsame).2] at hfile
    exact hdisjoint (h.mem_files hcall hfile) (h'.mem_files hcall' hfile')

end Checks

omit [Quantity τ] in
theorem of_mem_checkJobs {files : List String} {job : Job τ σ} (hin : job ∈ runner.checkJobs course files) :
    ∃ engine ∈ runner.engines, course.unavailable.holds engine.name = false ∧ course.failed.holds engine.name = false ∧
      job = ⟨engine, .check, runner.filesFor course engine files⟩ := by
  obtain ⟨engine, hengine, rfl⟩ := List.mem_map.mp (List.mem_filter.mp hin).1
  obtain ⟨havailable, hfine⟩ := List.mem_filter.mp hengine
  obtain ⟨hmem, hpresent⟩ := List.mem_filter.mp havailable
  exact ⟨engine, hmem, by simpa using hpresent, by simpa using hfine, rfl⟩

omit [Quantity τ] in
theorem checkJobs_names (runner : Runner τ σ) (course : Course τ) (files : List String) :
    ((runner.checkJobs course files).map (·.engine.name)).Sublist (runner.engines.map (·.name)) := by
  unfold checkJobs
  have hjobs := (List.filter_sublist (p := fun job : Job τ σ => !job.files.isEmpty)
    (l := ((runner.available course).filter fun engine => !course.failed.holds engine.name).map fun engine =>
      Job.mk engine .check (runner.filesFor course engine files))).map (·.engine.name)
  rw [List.map_map] at hjobs
  exact hjobs.trans ((List.filter_sublist.trans List.filter_sublist).map _)

/-- The calls of a check batch. -/
theorem called_checkBatch (hnames : (runner.engines.map (·.name)).Nodup)
    (hdiscreet : ∀ engine ∈ runner.engines, engine.Discreet) {batch : Batch τ} (hfiles : batch.files.Nodup) (own : Nat)
    (world : World τ σ) :
    ∃ calls, world.Called ((runner.checkBatch course batch own).on world).2 calls ∧
      runner.Checks course batch.files calls := by
  have hjobs : ∀ job ∈ runner.checkJobs course batch.files, job.engine.Discreet := by
    intro job hjob
    obtain ⟨engine, hengine, -, -, rfl⟩ := of_mem_checkJobs hjob
    exact hdiscreet engine hengine
  refine (plain_remark _).silent.called_bind Checks.nil (fun _ opened => ?_) world
  refine (plain_sampled (World.sampled_workers runner)).silent.called_bind Checks.nil (fun workers seen => ?_) opened
  obtain ⟨made, rest, hmade, -, hcalled⟩ := called_runJobs hjobs runner.grantsGrace runner.schedule own workers false seen
  refine ⟨made.map Job.asCall, hcalled, fun call hin => ?_, ?_⟩
  · obtain ⟨job, hjob, rfl⟩ := List.mem_map.mp hin
    obtain ⟨engine, hengine, hpresent, hfine, rfl⟩ := of_mem_checkJobs (hmade.subset (List.mem_append_left _ hjob))
    exact ⟨engine, hengine, batch.files, fun file hfile => hfile, rfl, hpresent, hfine⟩
  · rw [List.flatMap_map, List.nodup_flatMap]
    refine ⟨fun job hjob => ?_, ?_⟩
    · obtain ⟨engine, -, -, -, rfl⟩ := of_mem_checkJobs (hmade.subset (List.mem_append_left _ hjob))
      refine (hfiles.sublist (runner.filesFor_sublist course engine batch.files)).map ?_
      exact fun first second hsame => (Prod.mk.inj hsame).2
    · -- Calls of a batch are of different engines.
      have hdistinct := (hmade.map (·.engine.name)).nodup_iff.mpr
        (hnames.sublist (runner.checkJobs_names course batch.files))
      rw [List.map_append] at hdistinct
      refine (List.pairwise_map.mp (List.nodup_append.mp hdistinct).1).imp fun hother pair hpair hpair' => ?_
      obtain ⟨file, -, rfl⟩ := List.mem_map.mp hpair
      obtain ⟨file', -, hsame⟩ := List.mem_map.mp hpair'
      exact hother (Prod.mk.inj hsame).1.symm

/-- The calls of batched checks, from where they stand. -/
theorem called_rounds (course : Course τ) (hnames : (runner.engines.map (·.name)).Nodup)
    (hdiscreet : ∀ engine ∈ runner.engines, engine.Discreet) (config : BatchConfig τ) (token : Nat)
    (budget : Option (Amount τ)) {queue : List Queued} (hqueue : (queue.map (·.ranked.file)).Nodup) (index : Nat)
    (report : BatchReport (List (Outcome τ))) (world : World τ σ) :
    ∃ calls, world.Called (config.proceed (runner.checkBatch course) token budget ⟨queue, index, report, world⟩).2 calls ∧
      runner.Checks course (queue.map (·.ranked.file)) calls := by
  -- Every round makes the queue lighter.
  induction hweight : Queued.total config.maxDeferrals queue using Nat.strongRecOn
    generalizing queue index report world with
  | _ weight ih =>
    by_cases waiting : queue = []
    · subst waiting
      rw [BatchConfig.proceed_nil]
      exact ⟨[], World.Called.of_journal rfl, .nil⟩
    cases going : world.clock.forest.isCancelled token with
    | true =>
        rw [BatchConfig.proceed_cancelled waiting going]
        exact ⟨[], World.Called.of_journal rfl, .nil⟩
    | false =>
        rw [BatchConfig.proceed_going waiting going]
        refine (config.plain_outlook token budget).silent.called_bind Checks.nil (fun view seen => ?_) world
        have lighter : Queued.total config.maxDeferrals (config.cutFor view queue).rest < weight :=
          hweight ▸ weight_cut_lt _ _ _ _ _ waiting
        -- The batch, the files left out and the rest of the queue are the queue.
        have hperm : ((config.cutFor view queue).taken.map (·.file) ++
            ((config.cutFor view queue).omitted ++ (config.cutFor view queue).rest.map (·.ranked.file))).Perm
              (queue.map (·.ranked.file)) := by
          rw [List.perm_iff_count]
          intro file
          rw [List.count_append, List.count_append, ← Nat.add_assoc]
          exact config.count_cutFor view queue file
        obtain ⟨htaken, hothers, hapart⟩ := List.nodup_append.mp (hperm.nodup_iff.mpr hqueue)
        have hrest := (List.nodup_append.mp hothers).2.1
        have hdisjoint : ((config.cutFor view queue).taken.map (·.file)).Disjoint
            ((config.cutFor view queue).rest.map (·.ranked.file)) := fun file hfirst hsecond =>
          hapart file hfirst file (List.mem_append_right _ hsecond) rfl
        have hsub : ∀ file, file ∈ (config.cutFor view queue).taken.map (·.file) ∨
            file ∈ (config.cutFor view queue).rest.map (·.ranked.file) → file ∈ queue.map (·.ranked.file) := by
          rintro file (hfile | hfile)
          · exact hperm.subset (List.mem_append_left _ hfile)
          · exact hperm.subset (List.mem_append_right _ (List.mem_append_right _ hfile))
        have hlater := fun index report world => ih _ lighter hrest index report world rfl
        split
        · obtain ⟨calls, hcalled, hcalls⟩ := hlater index (report.shed (config.cutFor view queue)) seen
          exact ⟨calls, hcalled, Checks.nil.append hcalls hdisjoint hsub⟩
        · obtain ⟨calls, hcalled, hcalls⟩ := World.called_budgeted
            (P := runner.Checks course ((config.cutFor view queue).taken.map (·.file))) token
            (config.batchFor view queue index).timeout (runner.checkBatch course (config.batchFor view queue index))
            (fun own opened => called_checkBatch hnames hdiscreet htaken own opened) seen
          rw [Act.on_bind]
          rcases hwork : (World.budgeted token (config.batchFor view queue index).timeout
            (runner.checkBatch course (config.batchFor view queue index))).on seen with ⟨outcome, done⟩
          rw [hwork] at hcalled
          cases outcome with
          | error fault =>
              refine ⟨calls, hcalled, ?_⟩
              have hall := hcalls.append Checks.nil hdisjoint hsub
              rwa [List.append_nil] at hall
          | ok answer =>
              obtain ⟨more, hmore, hchecks⟩ := hlater (index + 1)
                ((report.shed (config.cutFor view queue)).enter (config.batchFor view queue index) answer.1 answer.2) done
              exact ⟨calls ++ more, hcalled.trans hmore, hcalls.append hchecks hdisjoint hsub⟩

/-- The calls of all check batches; files are normalised before they are put into batches. -/
theorem called_process (course : Course τ) (hnames : (runner.engines.map (·.name)).Nodup)
    (hdiscreet : ∀ engine ∈ runner.engines, engine.Discreet) (config : BatchConfig τ) (files : List String)
    (critical : Option (List String)) (token : Nat) (budget : Option (Amount τ)) (world : World τ σ) :
    ∃ input calls, world.Called ((config.process files (runner.checkBatch course) token critical budget).on world).2 calls ∧
      runner.Checks course input calls ∧ ∀ file ∈ input, ∃ text ∈ files, world.disk.normalize text = .ok file := by
  unfold BatchConfig.process
  rw [Act.on_bind, BatchConfig.on_queue]
  cases horder : order world.disk files critical with
  | error fault => exact ⟨[], [], World.Called.of_journal rfl, .nil, by simp⟩
  | ok ordered =>
      obtain ⟨input, hinput, hcount⟩ := order_ok horder
      have hqueue : (ordered.map (Queued.mk · 0)).map (·.ranked.file) = ordered.map (·.file) := by
        rw [List.map_map]
        rfl
      have hperm : (ordered.map (·.file)).Perm input := List.perm_iff_count.mpr hcount
      have hnodup : ((ordered.map (Queued.mk · 0)).map (·.ranked.file)).Nodup := by
        rw [hqueue]
        exact hperm.nodup_iff.mpr (nodup_normalizeAll hinput)
      obtain ⟨calls, hcalled, hcalls⟩ := called_rounds course hnames hdiscreet config token budget hnodup 0
        .empty world
      rw [hqueue] at hcalls
      exact ⟨_, calls, hcalled, hcalls, fun file hfile => Disk.exists_of_mem_normalizeAll hinput (hperm.subset hfile)⟩

/-- The calls of a check phase are those of its batches. -/
theorem called_checkPhase (course : Course τ) (hnames : (runner.engines.map (·.name)).Nodup)
    (hdiscreet : ∀ engine ∈ runner.engines, engine.Discreet) (files : List String) (critical : Option (List String))
    (token : Nat) (budget : τ) (world : World τ σ) :
    ∃ input calls, world.Called ((runner.checkPhase files critical token budget course).on world).2 calls ∧
      runner.Checks course input calls ∧ ∀ file ∈ input, ∃ text ∈ files, world.disk.normalize text = .ok file := by
  unfold checkPhase
  split
  · exact ⟨[], [], World.Called.of_journal rfl, .nil, by simp⟩
  · obtain ⟨input, calls, hcalled, hchecks⟩ := called_process course hnames hdiscreet runner.config.batching
      files critical token (some (.measured budget)) world
    refine ⟨input, calls, ?_, hchecks⟩
    rw [Act.on_bind]
    rcases hprocess : (runner.config.batching.process files (runner.checkBatch course) token critical
      (some (.measured budget))).on world with ⟨outcome, done⟩
    rw [hprocess] at hcalled
    cases outcome with
    | error fault => exact hcalled
    | ok report =>
        have hrecords : (runner.recordBatches course report.results).Keeps World.Plain :=
          plain_said fun world => ⟨_, runner.on_recordBatches course report.results world⟩
        exact hcalled.then_none
          ((hrecords.bind fun _ => (OutputConfig.plain_warnIf _ _ _).bind fun _ => plain_pure _) done).silent

end Runner

/-! ### A whole run -/

/-- How a run came to the end of its fix phase. -/
structure Advance (runner : Runner τ σ) (request : Request τ) (world : World τ σ) where
  setup : Setup τ
  /-- The world when the run is set up. -/
  ready : World τ σ
  /-- The world when readings are taken, in which the fix phase begins. -/
  watching : World τ σ
  /-- The calls of the fix phase. -/
  round : FixRound τ
  /-- The world after the calls of the fix phase. -/
  done : World τ σ
  /-- The course after the fix phase. -/
  fixed : Course τ
  /-- The world after the fix phase. -/
  rested : World τ σ
  setUp : (runner.setUp request).on world = (.ok setup, ready)
  watches : Act.on (World.startMonitor 0) ready = (.ok (), watching)
  rounds : (runner.fixRound setup.files request.critical setup.phaseToken).on watching = (.ok round, done)
  fixes : (runner.fixFirst setup.files request.critical setup.phaseToken).on watching = (.ok fixed, rested)

/-- How a run came to the calls of a fix phase that was broken off. -/
structure BrokenOff (runner : Runner τ σ) (request : Request τ) (world : World τ σ) where
  setup : Setup τ
  /-- The world when the run is set up. -/
  ready : World τ σ
  /-- The world when readings are taken, in which the fix phase begins. -/
  watching : World τ σ
  /-- What is said when the fix phase is entered. -/
  entries : List (Event τ)
  admission : Admission τ
  /-- The world when the files are admitted. -/
  seen : World τ σ
  setUp : (runner.setUp request).on world = (.ok setup, ready)
  watches : Act.on (World.startMonitor 0) ready = (.ok (), watching)
  admits : (runner.config.batching.admission setup.files request.critical setup.phaseToken).on (watching.noted entries) =
    (.ok admission, seen)

/-- What the calls of a run are whose fix phase was broken off: fix calls only. -/
def BrokenOff.OnlyFixes {runner : Runner τ σ} {request : Request τ} {world : World τ σ}
    (broken : BrokenOff runner request world) (calls : List Call) : Prop :=
  runner.Fixes broken.setup.files broken.watching.disk broken.admission.batch.files calls

/-- Where the files of a run stay as they are when they are normalised again, no other files are passed on. -/
theorem BrokenOff.OnlyFixes.members {runner : Runner τ σ} {request : Request τ} {world : World τ σ}
    {broken : BrokenOff runner request world} {calls : List Call} (h : broken.OnlyFixes calls)
    (hfix : ∀ text ∈ broken.setup.files, broken.watching.disk.normalize text = .ok text) :
    ∀ call ∈ calls, ∀ file ∈ call.files, file ∈ broken.setup.files := by
  intro call hin file hfile
  obtain ⟨-, engine, -, -, rfl⟩ := h.each call hin
  obtain ⟨text, htext, hnormal⟩ := h.input file hfile
  rwa [← Except.ok.inj ((hfix text htext).symm.trans hnormal)]

namespace Advance

variable {runner : Runner τ σ} {request : Request τ} {world : World τ σ}

/-- What the calls of a run are: fix calls, and check calls. -/
structure InSequence (advance : Advance runner request world) (fixCalls checkCalls : List Call) : Prop where
  /-- Fixers are called to fix the admitted files, if that is wanted. -/
  fixing : ∀ call ∈ fixCalls, call.pass = .fix ∧ call.files = advance.round.admitted ∧
    runner.config.execution.fix = true ∧ ∃ engine ∈ runner.engines, engine.name = call.engine ∧ engine.canFix = true
  fixedOnce : (fixCalls.map (·.engine)).Nodup
  fixedInOrder : runner.config.execution.serialFix = true →
    (fixCalls.map (·.engine)).Sublist (runner.engines.map (·.name))
  checking : ∀ call ∈ checkCalls, call.pass = .check ∧ ∃ engine ∈ runner.engines, engine.name = call.engine
  checkedOnce : (checkCalls.flatMap Call.pairs).Nodup
  /-- Files are passed on as the files of the run are normalised when the phase begins. -/
  fixInput : ∀ call ∈ fixCalls, ∀ file ∈ call.files, ∃ text ∈ advance.setup.files,
    advance.watching.disk.normalize text = .ok file
  checkInput : ∀ call ∈ checkCalls, ∀ file ∈ call.files, ∃ text ∈ advance.setup.files,
    advance.rested.disk.normalize text = .ok file
  /-- After a fix phase, an engine that reports precisely is asked about files that were held back, or that
  a later fixer reported as modified. -/
  again : runner.config.execution.fix = true → ∀ engine ∈ runner.engines, engine.canFix = true →
    engine.precise = true → ∀ call ∈ checkCalls, call.engine = engine.name → ∀ file ∈ call.files,
      file ∈ advance.round.deferred ∨ ∃ earlier own later, advance.round.outcomes = earlier ++ own :: later ∧
        own.engine = engine.name ∧
        ∃ other ∈ (if runner.config.execution.serialFix then later else earlier ++ later),
          ∃ result, other.verdict = .result result ∧ file ∈ result.modified
  /-- Outcomes of the fix phase are in the order of the engines. -/
  outcomes : (advance.round.outcomes.map (·.engine)).Sublist (runner.engines.map (·.name))
  able : ∀ call ∈ checkCalls, advance.fixed.unavailable.holds call.engine = false ∧
    advance.fixed.failed.holds call.engine = false

/-- The outcomes of a fix round, engine by engine. -/
theorem outcomes_engines (advance : Advance runner request world) :
    advance.round.outcomes = [] ∨ advance.round.outcomes.map (·.engine) = (runner.fixers .initial).map (·.name) := by
  refine (Runner.fixRound_yields advance.rounds).imp_right fun hyields => ?_
  have hnames : ∀ {jobs : List (Job τ σ)} {outcomes : List (Outcome τ)}, List.Forall₂ Job.Yields jobs outcomes →
      outcomes.map (·.engine) = jobs.map (·.engine.name) := by
    intro jobs outcomes h
    induction h with
    | nil => rfl
    | cons head tail ih => rw [List.map_cons, List.map_cons, head.engine, ih]
  rw [hnames hyields, Runner.fixJobs, List.map_map]
  rfl

/-- What an engine is to look at again was changed by another fixer that counts. -/
theorem changed_of_recheck (advance : Advance runner request world) (hfixed : runner.Fixed advance.round advance.fixed)
    {name file : String} (h : file ∈ (advance.fixed.recheck.get? name).getD []) :
    ∃ earlier own later, advance.round.outcomes = earlier ++ own :: later ∧ own.engine = name ∧
      ∃ other ∈ (if runner.config.execution.serialFix then later else earlier ++ later),
        ∃ result, other.verdict = .result result ∧ file ∈ result.modified := by
  rw [hfixed.recheck] at h
  have hzip : (((runner.fixers .initial).map (·.precise)).zip advance.round.outcomes).map (·.2) =
      advance.round.outcomes := by
    rcases advance.outcomes_engines with hnone | hnames
    · rw [hnone, List.zip_nil_right, List.map_nil]
    · have hlength := congrArg List.length hnames
      rw [List.length_map, List.length_map] at hlength
      exact List.map_snd_zip (by rw [List.length_map, hlength])
  rcases Course.of_mem_marks h with hnone | ⟨earlier, own, later, hsplit, hname, hfile⟩
  · cases hnone
  · refine ⟨earlier, own, later, hzip.symm.trans hsplit, hname, ?_⟩
    unfold Course.changedFiles at hfile
    rw [mem_firsts, List.mem_flatMap] at hfile
    obtain ⟨other, hother, hmodified⟩ := hfile
    refine ⟨other, ?_, ?_⟩
    · cases hserial : runner.config.execution.serialFix <;> simpa [hserial] using hother
    · cases hresult : other.result? with
      | none =>
          rw [hresult] at hmodified
          cases hmodified
      | some result =>
          rw [hresult] at hmodified
          exact ⟨result, Outcome.result?_eq_some.mp hresult, hmodified⟩

/-- The calls of both phases, put together. -/
theorem inSequence (hnames : (runner.engines.map (·.name)).Nodup) (advance : Advance runner request world)
    {fixCalls checkCalls : List Call} (tracker : Tracker) (input : List String)
    (hfixed : runner.Fixed advance.round advance.fixed)
    (hfixes : runner.Fixes advance.setup.files advance.watching.disk advance.round.admitted fixCalls)
    (hchecks : runner.Checks { advance.fixed with tracker := tracker } input checkCalls)
    (hinput : ∀ file ∈ input, ∃ text ∈ advance.setup.files, advance.rested.disk.normalize text = .ok file) :
    advance.InSequence fixCalls checkCalls where
  fixing call hin := by
    obtain ⟨hwanted, engine, hengine, hfix, rfl⟩ := hfixes.each call hin
    exact ⟨rfl, rfl, hwanted, engine, hengine, rfl, hfix⟩
  fixedOnce := hfixes.once
  fixedInOrder := hfixes.inOrder
  checking call hin := by
    obtain ⟨engine, hengine, batch, -, rfl, -⟩ := hchecks.each call hin
    exact ⟨rfl, engine, hengine, rfl⟩
  checkedOnce := hchecks.once
  fixInput call hin file hfile := by
    obtain ⟨-, engine, -, -, rfl⟩ := hfixes.each call hin
    exact hfixes.input file hfile
  checkInput call hin file hfile := hinput file (hchecks.mem_files hin hfile)
  again hwanted engine hengine hfix hprecise call hin hname file hfile := by
    obtain ⟨own, hown, batch, -, rfl, -⟩ := hchecks.each call hin
    obtain rfl : own = engine := List.inj_on_of_nodup_map hnames hown hengine hname
    have hasked : file ∈ runner.filesFor { advance.fixed with tracker := tracker } own batch := hfile
    unfold Runner.filesFor at hasked
    rw [hwanted, hfix, hprecise] at hasked
    have hreason := (List.mem_filter.mp hasked).2
    simp only [Bool.or_eq_true, List.contains_iff_mem] at hreason
    rw [← hfixed.deferred]
    exact hreason.imp_right (advance.changed_of_recheck hfixed)
  outcomes := by
    rcases advance.outcomes_engines with hnone | hengines
    · rw [hnone]
      exact List.nil_sublist _
    · rw [hengines]
      exact (List.filter_sublist.trans List.filter_sublist).map _
  able call hin := by
    obtain ⟨engine, -, batch, -, rfl, hpresent, hfine⟩ := hchecks.each call hin
    exact ⟨hpresent, hfine⟩

end Advance

namespace Runner

variable {runner : Runner τ σ} {request : Request τ} {world : World τ σ}

/-- The calls of the phases of a run: none, those of a fix phase that was broken off, or those of both phases. -/
theorem called_phases (hnames : (runner.engines.map (·.name)).Nodup)
    (hdiscreet : ∀ engine ∈ runner.engines, engine.Discreet) {setup : Setup τ} {ready : World τ σ}
    (hsetup : (runner.setUp request).on world = (.ok setup, ready)) :
    ready.Silent ((runner.phases setup.files request.critical setup.phaseToken setup.budget).on ready).2 ∨
      (∃ (broken : BrokenOff runner request world) (calls : List Call), broken.OnlyFixes calls ∧
        ready.Called ((runner.phases setup.files request.critical setup.phaseToken setup.budget).on ready).2 calls) ∨
      ∃ (advance : Advance runner request world) (fixCalls checkCalls : List Call), advance.InSequence fixCalls checkCalls ∧
        ready.Called ((runner.phases setup.files request.critical setup.phaseToken setup.budget).on ready).2
          (fixCalls ++ checkCalls) := by
  unfold phases
  rw [Act.on_bind]
  rcases hwatch : Act.on (World.startMonitor 0) ready with ⟨outcome, watching⟩
  cases outcome with
  | error fault => exact Or.inl ((World.plain_startMonitor.of_on hwatch).silent)
  | ok started =>
      have hwatching := (World.plain_startMonitor.of_on hwatch).silent
      simp only
      rw [Act.on_bind]
      rcases hfix : (runner.fixFirst setup.files request.critical setup.phaseToken).on watching with ⟨outcome, rested⟩
      cases outcome with
      | error fault =>
          rcases called_fixFirst_error hnames hdiscreet hfix with
            hsilent | ⟨entries, admission, seen, calls, hadmits, hcalled, hfixes⟩
          · exact Or.inl (hwatching.after_none hsilent)
          · exact Or.inr (Or.inl ⟨⟨setup, ready, watching, entries, admission, seen, hsetup, hwatch, hadmits⟩, calls, hfixes,
              hwatching.after_none hcalled⟩)
      | ok fixed =>
          obtain ⟨round, done, fixCalls, hround, hfixed, hcalled, hfixes⟩ := called_fixFirst hnames hdiscreet hfix
          have hrested := hwatching.after_none hcalled
          let advance : Advance runner request world :=
            ⟨setup, ready, watching, round, done, fixed, rested, hsetup, hwatch, hround, hfix⟩
          refine Or.inr (Or.inr ⟨advance, fixCalls, ?_⟩)
          simp only
          rw [Act.on_bind]
          rcases henter : (fixed.enter .check).on rested with ⟨outcome, checking⟩
          cases outcome with
          | error fault =>
              refine ⟨[], advance.inSequence hnames fixed.tracker [] hfixed hfixes .nil (by simp), ?_⟩
              exact hrested.trans ((Course.plain_enter fixed .check).of_on henter).silent
          | ok entered =>
              have hchecking := ((Course.plain_enter fixed .check).of_on henter).silent
              obtain ⟨tracker, events, rfl, rfl, -⟩ := Course.enter_ok henter
              obtain ⟨input, checkCalls, hcalled', hchecks, hinput⟩ := called_checkPhase
                { fixed with tracker := tracker } hnames hdiscreet setup.files request.critical
                setup.phaseToken setup.budget (rested.noted events)
              exact ⟨checkCalls, advance.inSequence hnames tracker input hfixed hfixes hchecks hinput,
                hrested.trans (hchecking.after_none hcalled')⟩

/-- The calls of a run up to the end of its phases. -/
theorem called_launch (hnames : (runner.engines.map (·.name)).Nodup)
    (hdiscreet : ∀ engine ∈ runner.engines, engine.Discreet) (request : Request τ) (world : World τ σ) :
    world.Silent ((runner.launch request).on world).2 ∨
      (∃ (broken : BrokenOff runner request world) (calls : List Call), broken.OnlyFixes calls ∧
        world.Called ((runner.launch request).on world).2 calls) ∨
      ∃ (advance : Advance runner request world) (fixCalls checkCalls : List Call), advance.InSequence fixCalls checkCalls ∧
        world.Called ((runner.launch request).on world).2 (fixCalls ++ checkCalls) := by
  unfold launch
  rw [Act.on_bind]
  rcases hsetup : (runner.setUp request).on world with ⟨outcome, ready⟩
  cases outcome with
  | error fault => exact Or.inl ((silent_setUp hdiscreet request).of_on hsetup)
  | ok setup =>
      have hready := (silent_setUp hdiscreet request).of_on hsetup
      have hend : (Act.on (runner.work request setup >>= fun course => pure (setup, course)) ready).2 =
          ((runner.work request setup).on ready).2 := by
        rw [Act.on_bind]
        rcases (runner.work request setup).on ready with ⟨outcome, done⟩
        cases outcome <;> rfl
      -- What always follows the phases does not write to the journal.
      have hafter : ∀ calls, ready.Called ((runner.phases setup.files request.critical setup.phaseToken
          setup.budget).on ready).2 calls → world.Called ((runner.work request setup).on ready).2 calls := by
        intro calls hcalls
        obtain ⟨ended, -, hended, hdone⟩ := on_work runner request setup ready
        rw [hdone]
        exact hready.after_none (hcalls.then_none (World.Called.of_journal hended.journal))
      simp only
      rw [hend]
      rcases called_phases hnames hdiscreet hsetup with
        hsilent | ⟨broken, calls, hfixes, hcalled⟩ | ⟨advance, fixCalls, checkCalls, hsequence, hcalled⟩
      · exact Or.inl (hafter _ hsilent)
      · exact Or.inr (Or.inl ⟨broken, calls, hfixes, hafter _ hcalled⟩)
      · exact Or.inr (Or.inr ⟨advance, fixCalls, checkCalls, hsequence, hafter _ hcalled⟩)

end Runner

namespace Advance

variable {runner : Runner τ σ} {request : Request τ} {world : World τ σ}

/-- Where the files of a run stay as they are when they are normalised again, no other files are passed on. -/
theorem InSequence.members {advance : Advance runner request world} {fixCalls checkCalls : List Call}
    (h : advance.InSequence fixCalls checkCalls)
    (hfix : ∀ text ∈ advance.setup.files, advance.watching.disk.normalize text = .ok text)
    (hcheck : ∀ text ∈ advance.setup.files, advance.rested.disk.normalize text = .ok text) :
    ∀ call ∈ fixCalls ++ checkCalls, ∀ file ∈ call.files, file ∈ advance.setup.files := by
  intro call hin file hfile
  rcases List.mem_append.mp hin with hcall | hcall
  · obtain ⟨text, htext, hnormal⟩ := h.fixInput call hcall file hfile
    rwa [← Except.ok.inj ((hfix text htext).symm.trans hnormal)]
  · obtain ⟨text, htext, hnormal⟩ := h.checkInput call hcall file hfile
    rwa [← Except.ok.inj ((hcheck text htext).symm.trans hnormal)]

end Advance

/-- **Fixing comes strictly before checking, and no engine is asked twice.**  Engines write nothing but commands
to the journal, and the shell writes nothing to it; beyond that, they may do what they want.  Whatever
comes of a run, the calls in its journal are none at all, fix calls of a phase that was broken off, or fix calls
followed by check calls. -/
theorem fixes_before_checks {runner : Runner τ σ} (hnames : (runner.engines.map (·.name)).Nodup)
    (hdiscreet : ∀ engine ∈ runner.engines, engine.Discreet) (hquiet : runner.shell.Quiet) (request : Request τ)
    (world : World τ σ) :
    ∃ events, ((runner.run request).on world).2.journal = world.journal ++ events ∧
      (callsIn events = [] ∨
        (∃ broken : BrokenOff runner request world, broken.OnlyFixes (callsIn events) ∧
          world.disk.normalizeAll request.files = .ok broken.setup.files ∧
          ((∀ text ∈ broken.setup.files, broken.watching.disk.normalize text = .ok text) →
            ∀ call ∈ callsIn events, ∀ file ∈ call.files, file ∈ broken.setup.files)) ∨
        ∃ (advance : Advance runner request world) (fixCalls checkCalls : List Call),
          callsIn events = fixCalls ++ checkCalls ∧ advance.InSequence fixCalls checkCalls ∧
          world.disk.normalizeAll request.files = .ok advance.setup.files ∧
          ((∀ text ∈ advance.setup.files, advance.watching.disk.normalize text = .ok text) →
            (∀ text ∈ advance.setup.files, advance.rested.disk.normalize text = .ok text) →
            ∀ call ∈ fixCalls ++ checkCalls, ∀ file ∈ call.files, file ∈ advance.setup.files)) := by
  have hconclude : ((runner.launch request).on world).2.Uncalled ((runner.run request).on world).2 := by
    rw [Runner.run_eq, Act.on_bind]
    rcases (runner.launch request).on world with ⟨outcome, done⟩
    cases outcome with
    | ok launched => exact Runner.uncalled_conclude hquiet request launched.1 launched.2 done
    | error fault => exact (World.Plain.of_journal rfl).silent.uncalled
  obtain ⟨late, hlate, hnone⟩ := hconclude
  have hjoined : ∀ {early : List (Event τ)}, ((runner.launch request).on world).2.journal = world.journal ++ early →
      ((runner.run request).on world).2.journal = world.journal ++ (early ++ late) := fun hearly => by
    rw [hlate, hearly, List.append_assoc]
  have hcallsIn : ∀ early : List (Event τ), callsIn (early ++ late) = callsIn early := fun early => by
    rw [callsIn_append, hnone, List.append_nil]
  rcases Runner.called_launch hnames hdiscreet request world with ⟨early, hearly, hcalls, -⟩ |
    ⟨broken, calls, hfixes, early, hearly, hcalls, -⟩ | ⟨advance, fixCalls, checkCalls, hsequence, early, hearly, hcalls, -⟩
  · exact ⟨early ++ late, hjoined hearly, Or.inl ((hcallsIn early).trans hcalls)⟩
  · refine ⟨early ++ late, hjoined hearly, Or.inr (Or.inl ⟨broken, ?_⟩)⟩
    rw [hcallsIn, hcalls]
    exact ⟨hfixes, (Runner.setUp_steps broken.setUp).1, hfixes.members⟩
  · exact ⟨early ++ late, hjoined hearly, Or.inr (Or.inr ⟨advance, fixCalls, checkCalls, (hcallsIn early).trans hcalls,
      hsequence, (Runner.setUp_steps advance.setUp).1, hsequence.members⟩)⟩

/-! ### Runs -/

omit [Quantity τ] in
/-- Engines that leave the world alone are discreet. -/
theorem Engine.discreet_of_idle {engine : Engine τ σ}
    (hprepare : ∀ fingerprint world, (Change.on (engine.prepare fingerprint) world).2 = world)
    (hcalls : ∀ pass files token world, (Change.on (engine.call pass files token) world).2 = world) : engine.Discreet := by
  have hnothing : ∀ world : World τ σ, world.Commanded world := fun world => ⟨[], (List.append_nil _).symm, by simp⟩
  refine ⟨fun fingerprint world => ?_, fun pass files token world => ?_⟩
  · rw [hprepare]
    exact hnothing world
  · rw [hcalls]
    exact hnothing world

theorem discreet_formatThenRewrite : ∀ engine ∈ formatThenRewrite.engines, engine.Discreet := by
  intro engine hin
  simp only [formatThenRewrite, List.mem_cons, List.not_mem_nil, or_false] at hin
  rcases hin with rfl | rfl
  · exact Engine.discreet_of_idle (fun _ _ => rfl) fun pass _ _ _ => by cases pass <;> rfl
  · exact Engine.discreet_of_idle (fun _ _ => rfl) fun pass _ _ _ => by cases pass <;> rfl

-- What names hold, and what a disk holds, is evaluated by equations: unfolding texts is slow.
attribute [local irreducible] Path.hasNul Disk.isDirectory Disk.present

/-- The formatter is asked again about the file that was changed after it. -/
theorem fixes_before_checks_formatter :
    ∃ (advance : Advance formatThenRewrite oneFile (World.still (.empty [] []) ())) (fixCalls checkCalls : List Call),
      fixCalls ++ checkCalls = [⟨"format", .fix, ["/a"]⟩, ⟨"lint", .fix, ["/a"]⟩, ⟨"format", .check, ["/a"]⟩,
        ⟨"lint", .check, ["/a"]⟩] ∧ advance.InSequence fixCalls checkCalls := by
  have hcalls : callsIn ((formatThenRewrite.run oneFile).on (World.still (.empty [] []) ())).2.journal =
      [⟨"format", .fix, ["/a"]⟩, ⟨"lint", .fix, ["/a"]⟩, ⟨"format", .check, ["/a"]⟩, ⟨"lint", .check, ["/a"]⟩] := by
    cbv
  obtain ⟨events, hjournal, hcases⟩ := fixes_before_checks (by decide) discreet_formatThenRewrite (fun _ _ _ => rfl)
    oneFile (World.still (.empty [] []) ())
  have hevents : ((formatThenRewrite.run oneFile).on (World.still (.empty [] []) ())).2.journal = events := hjournal
  rw [hevents] at hcalls
  rw [hcalls] at hcases
  rcases hcases with hnone | ⟨broken, hfixes, -⟩ | ⟨advance, fixCalls, checkCalls, heq, hsequence, -⟩
  · cases hnone
  · -- A check call is no fix call.
    obtain ⟨-, engine, -, -, hcheck⟩ := hfixes.each ⟨"lint", .check, ["/a"]⟩ (by simp)
    cases congrArg Call.pass hcheck
  · exact ⟨advance, fixCalls, checkCalls, heq.symm, hsequence⟩

/-- Files are normalised again when a phase begins, and engines are passed what comes of that: after the move, the file
that the link leads to, which is not what the request normalised to. -/
theorem moved_file_passed :
    ∃ input, Disk.linkable.normalizeAll oneFile.files = .ok input ∧
      ∃ call ∈ callsIn ((moveThenCheck.run oneFile).on (World.still .linkable ())).2.journal,
        ∃ file ∈ call.files, file ∉ input := by
  obtain ⟨report, after, hrun, hinput, -, -, hcalls⟩ := moveThenCheck_run
  refine ⟨["/a"], hinput, ⟨"lint", .check, ["/c"]⟩, ?_, "/c", by decide, by decide⟩
  rw [hrun, hcalls]
  exact List.mem_cons_of_mem _ List.mem_cons_self

end FixFirst
