import FixFirst.Proofs.Beside.Fixes

/-!
# Checks side by side

Batched work goes from round to round in the same way with the broken engine and without it: the rounds
look at the same world and cut the same files off the queue, so only what the handler makes of a batch
can differ.

## Main definitions

* `BatchReport.Beside` — the report on batches, beside the one with the broken engine.

## Main statements

* `BatchConfig.rounds_beside` — batched work, when its handler does alike in each batch.
* `Runner.Joined.checkPhase` — the check phase.
-/

namespace FixFirst

variable {τ σ : Type} {name : String} {first asked : Bool}

/-! ### Reports -/

/-- Whether a report on batches is like another one, but for the outcomes of an engine, which was called
`first` or in one of the batches. -/
structure BatchReport.Beside (name : String) (first asked : Bool) (report other : BatchReport (List (Outcome τ))) : Prop where
  rest : report = { other with results := report.results }
  results : BesideOutcomes name report.results.flatten other.results.flatten
  asked : asked = (first || other.results.flatten.any (·.engine == name))

theorem BesideOutcomes.nil (name : String) : BesideOutcomes (τ := τ) name [] [] :=
  ⟨rfl, by simp, by simp⟩

theorem BesideOutcomes.append {outcomes others more rest : List (Outcome τ)} (h : BesideOutcomes name outcomes others)
    (h' : BesideOutcomes name more rest) : BesideOutcomes name (outcomes ++ more) (others ++ rest) where
  rest := by rw [List.filter_append, h.rest, h'.rest]
  failed outcome hin := (List.mem_append.mp hin).elim (h.failed outcome) (h'.failed outcome)
  signed outcome hin := (List.mem_append.mp hin).elim (h.signed outcome) (h'.signed outcome)

namespace BatchReport.Beside

variable {report other : BatchReport (List (Outcome τ))}

theorem shed (h : report.Beside name first asked other) (round : Cut) :
    (report.shed round).Beside name first asked (other.shed round) := by
  refine ⟨?_, h.results, h.asked⟩
  exact congrArg (fun known => BatchReport.shed known round) h.rest

/-- A batch that came back in time. -/
theorem enter (h : report.Beside name first asked other) (batch : Batch τ) {outcomes others : List (Outcome τ)}
    (hall : BesideOutcomes name outcomes others) :
    (report.enter batch outcomes false).Beside name first (asked || others.any (·.engine == name))
      (other.enter batch others false) := by
  refine ⟨?_, ?_, ?_⟩
  · exact congrArg (fun known : BatchReport (List (Outcome τ)) => { known with
      results := report.results ++ [outcomes], processed := known.processed ++ batch.files }) h.rest
  · simp only [BatchReport.enter, Bool.false_eq_true, if_false, List.flatten_append, List.flatten_singleton]
    exact h.results.append hall
  · simp only [BatchReport.enter, Bool.false_eq_true, if_false, List.flatten_append, List.flatten_singleton,
      List.any_append, ← Bool.or_assoc, ← h.asked]

end BatchReport.Beside

/-! ### Rounds -/

variable [Quantity τ] {aspect : Aspect} {own like : Nat}

/-- Batched work goes on alike when the handler does alike in each batch. -/
theorem BatchConfig.rounds_beside {config : BatchConfig τ} {handler handler' : Batch τ → Nat → Act τ σ (List (Outcome τ))}
    (hpair : (own, like) ∈ aspect.tokens)
    (hhandler : ∀ batch scope scope' asked, (handler batch scope).Twin { aspect with tokens := (scope, scope') :: aspect.tokens }
      asked (handler' batch scope') fun later outcomes others => BesideOutcomes name outcomes others ∧
        later = (asked || others.any (·.engine == name)))
    {budget : Option (Amount τ)}
    (hlasting : ∀ queue index report, (config.rounds handler own budget queue index report).Lasting aspect.base)
    (hlasting' : ∀ queue index report, (config.rounds handler' like budget queue index report).Lasting aspect.base)
    (queue : List Queued) (index : Nat) {report other : BatchReport (List (Outcome τ))}
    (h : report.Beside name first asked other) :
    (config.rounds handler own budget queue index report).Twin aspect asked
      (config.rounds handler' like budget queue index other) fun later done done' => done.Beside name first later done' := by
  -- Every round makes the queue lighter.
  induction hweight : Queued.total config.maxDeferrals queue using Nat.strongRecOn
    generalizing queue index report other asked with
  | _ weight ih =>
    rw [rounds, rounds]
    split
    · exact .pure h
    · rename_i waiting
      refine Act.Twin.going hpair (if_pos rfl) (if_pos rfl) ?_
      rw [if_neg Bool.false_ne_true, if_neg Bool.false_ne_true]
      refine (alike_outlook hpair config budget).twin fun view => ?_
      have lighter : Queued.total config.maxDeferrals (cut config.maxDeferrals view.scarce view.imminent view.size queue).rest <
          weight := hweight ▸ weight_cut_lt _ _ _ _ _ waiting
      simp only
      split
      · exact ih _ lighter _ _ (h.shed _) rfl
      · refine Act.Twin.bind (Act.Twin.budgeted hpair _ fun scope scope' => hhandler _ scope scope' asked)
          (fun later answer answer' hanswers => ?_) (fun answer => hlasting _ _ _) fun answer => hlasting' _ _ _
        obtain ⟨outcomes, overran⟩ := answer
        obtain ⟨others, overran'⟩ := answer'
        obtain ⟨⟨hall, rfl⟩, rfl, rfl⟩ := hanswers
        exact ih _ lighter _ _ ((h.shed _).enter _ hall) rfl

/-! ### Checking -/

namespace Course

variable {fixing : Prop} {course other : Course τ}

/-- What is known after the batches came back. -/
def checkedBy (course : Course τ) (report : BatchReport (List (Outcome τ))) : Course τ :=
  { course.takingAll report.results.flatten with
    timedOut := (course.takingAll report.results.flatten).timedOut || report.timedOut.length ≠ 0
    omitted := firsts ((course.takingAll report.results.flatten).omitted ++ report.omitted) }

omit [Quantity τ] in
theorem Beside.checkedBy (h : course.Beside name fixing first other) {report report' : BatchReport (List (Outcome τ))}
    (hreport : report.Beside name first asked report') :
    (course.checkedBy report).Beside name fixing asked (other.checkedBy report') := by
  have htaken := h.takingAll hreport.results
  rw [← hreport.asked] at htaken
  have htimed : report.timedOut = report'.timedOut := by rw [hreport.rest]
  have homitted : report.omitted = report'.omitted := by rw [hreport.rest]
  unfold Course.checkedBy
  rw [htimed, homitted, htaken.timedOut, htaken.omitted]
  exact ⟨congrArg (fun known : Course τ => { known with
    timedOut := (other.takingAll report'.results.flatten).timedOut || report'.timedOut.length ≠ 0
    omitted := firsts ((other.takingAll report'.results.flatten).omitted ++ report'.omitted) }) htaken.rest,
    htaken.deferred, htaken.asked, htaken.signed⟩

/-- The course of a run that has entered its fix phase. -/
def atFix : Course τ := { initial with tracker := ⟨.fix, [.start, .fix]⟩ }

end Course

namespace Runner

/-- What follows when the batches came back. -/
def checkTail (runner : Runner τ σ) (course : Course τ) (report : BatchReport (List (Outcome τ))) : Act τ σ (Course τ) := do
  let known ← runner.recordBatches course report.results
  let overran := report.timedOut.length
  runner.config.output.warnIf (overran ≠ 0) s!"{overran} check batch(es) timed out"
  return { known with
    timedOut := known.timedOut || overran ≠ 0
    omitted := firsts (known.omitted ++ report.omitted) }

theorem checkPhase_eq (runner : Runner τ σ) (files : List String) (critical : Option (List String)) (token : Nat)
    (budget : τ) (course : Course τ) :
    runner.checkPhase files critical token budget course = (do
      if files.isEmpty then return course
      let report ← runner.config.batching.process files (runner.checkBatch course) token critical (some (.measured budget))
      runner.checkTail course report) := rfl

theorem drifts_checkTail {level : Level} (runner : Runner τ σ) (course : Course τ)
    (report : BatchReport (List (Outcome τ))) (world : World τ σ) :
    (runner.checkTail course report).Drifts level world (.ok (course.checkedBy report)) := by
  refine (Act.Drifts.said (runner.on_recordBatches course report.results world)).bind fun recorded _ => ?_
  exact (Act.Drifts.warnIf _ _ _).bind fun warned _ => .pure _ warned

/-- Files that cannot be put in order are not checked. -/
theorem drifts_checkPhase_error {level : Level} (runner : Runner τ σ) {files : List String} (hfiles : files ≠ [])
    {critical : Option (List String)} {fault : Fault} {world : World τ σ} (horder : order world.disk files critical = .error fault)
    (token : Nat) (budget : τ) (course : Course τ) :
    (runner.checkPhase files critical token budget course).Drifts level world (.error fault) := by
  unfold checkPhase
  rw [if_neg (by simpa using hfiles)]
  have hqueue : Act.Drifts level (BatchConfig.queue files critical) world (.error fault) :=
    ⟨world, by rw [BatchConfig.on_queue, horder], .refl world⟩
  exact hqueue.bind_error.bind_error

namespace Joined

variable {runner joined : Runner τ σ} {odd : Engine τ σ} {course other : Course τ}

/-- A batch is checked alike. -/
theorem checkBatch (h : runner.Joined joined odd) (hname : aspect.name = odd.name)
    (hcourse : course.Beside odd.name runner.CanFix first other) (hpair : (own, like) ∈ aspect.tokens) (batch : Batch τ) :
    (runner.checkBatch course batch own).Twin aspect asked (joined.checkBatch other batch like)
      fun later outcomes others => BesideOutcomes odd.name outcomes others ∧
        later = (asked || others.any (·.engine == odd.name)) := by
  have hjobs : ∀ job ∈ joined.checkJobs other batch.files, job.engine ∈ joined.engines := by
    intro job hin
    obtain ⟨engine, hengine, -, -, rfl⟩ := of_mem_checkJobs hin
    exact hengine
  have hnames := h.names.sublist (joined.checkJobs_names other batch.files)
  refine Act.Twin.step (fun world _ => .remark _) (fun world _ => .remark _) ?_
  refine Act.Twin.step (fun world hpressed => hpressed.drifts_workers runner)
    (fun world hpressed => hpressed.drifts_workers joined) ?_
  rw [h.config, ← h.checkJobs hcourse batch.files]
  exact (h.runJobs hname hjobs hnames hpair _ _).mono fun later outcomes others hrun => ⟨hrun.1, hrun.2.2⟩

/-- A run over batches takes back no cancellation. -/
theorem lasting_checkRounds {base : Nat} (h : (Limits.stopped base).Bind runner) (course : Course τ) (token : Nat)
    (budget : τ) (queue : List Queued) (index : Nat) (report : BatchReport (List (Outcome τ))) :
    (runner.config.batching.rounds (runner.checkBatch course) token (some (.measured budget)) queue index report).Lasting
      base := by
  refine (within_rounds h (fun batch scope => ?_) token budget queue index report).lasting
  refine (h.remark _).andThen fun _ => h.workers.andThen fun workers => h.runJobs (fun job hin => ?_) scope workers false
  obtain ⟨engine, hengine, -, -, rfl⟩ := of_mem_checkJobs hin
  exact hengine

/-- All batches are checked alike. -/
theorem process (h : runner.Joined joined odd) (hname : aspect.name = odd.name) (hpair : (own, like) ∈ aspect.tokens)
    (hcourse : course.Beside odd.name runner.CanFix asked other) (files : List String) (critical : Option (List String))
    (budget : τ) :
    (runner.config.batching.process files (runner.checkBatch course) own critical (some (.measured budget))).Twin aspect asked
      (joined.config.batching.process files (joined.checkBatch other) like critical (some (.measured budget)))
      fun later report report' => report.Beside odd.name asked later report' := by
  have hlasting := lasting_checkRounds (bind_stopped h.lasting aspect.base) course own budget
  have hlasting' := lasting_checkRounds (bind_stopped h.lasting_joined aspect.base) other like budget
  rw [h.config] at hlasting' ⊢
  refine (BatchConfig.alike_queue files critical).twin fun ordered =>
    BatchConfig.rounds_beside hpair (fun batch scope scope' asked => ?_) hlasting hlasting' _ _ ?_
  · have hown : ({ aspect with tokens := (scope, scope') :: aspect.tokens } : Aspect).name = odd.name := hname
    exact h.checkBatch hown hcourse List.mem_cons_self batch
  · exact ⟨rfl, .nil odd.name, by simp [BatchReport.empty]⟩

/-- The check phase. -/
theorem checkPhase (h : runner.Joined joined odd) (hname : aspect.name = odd.name) (hpair : (own, like) ∈ aspect.tokens)
    (hcourse : course.Beside odd.name runner.CanFix asked other) (files : List String) (critical : Option (List String))
    (budget : τ) :
    (runner.checkPhase files critical own budget course).Twin aspect asked
      (joined.checkPhase files critical like budget other)
      fun later checked known => checked.Beside odd.name runner.CanFix later known := by
  rw [Runner.checkPhase_eq, Runner.checkPhase_eq]
  split
  · exact .pure hcourse
  · exact (h.process hname hpair hcourse files critical _).settle (runner.drifts_checkTail course)
      (joined.drifts_checkTail other) fun later report report' hreport => hcourse.checkedBy hreport

/-! ### All phases -/

theorem lasting_checkPhase {base : Nat} (h : (Limits.stopped base).Bind runner) (files : List String)
    (critical : Option (List String)) (token : Nat) (budget : τ) (course : Course τ) :
    (runner.checkPhase files critical token budget course).Lasting base :=
  (within_checkPhase h (fun _ _ => trivial) (fun _ _ _ _ => trivial) token budget).lasting

/-- After the fix phase, checking is entered. -/
theorem enterCheck (h : runner.Joined joined odd) (hname : aspect.name = odd.name) (hpair : (own, like) ∈ aspect.tokens)
    (hcourse : course.Beside odd.name runner.CanFix asked other) (files : List String) (critical : Option (List String))
    (budget : τ) :
    (course.enter .check >>= runner.checkPhase files critical own budget).Twin aspect asked
      (other.enter .check >>= joined.checkPhase files critical like budget)
      fun later checked known => checked.Beside odd.name runner.CanFix later known :=
  Act.Twin.silently fun world there _ => ⟨_, _, course.drifts_enter .check world, other.drifts_enter .check there,
    (hcourse.entering .check).mono fun _ _ hentered => h.checkPhase hname hpair hentered files critical budget⟩

theorem lasting_enterCheck {base : Nat} (h : (Limits.stopped base).Bind runner) (files : List String)
    (critical : Option (List String)) (token : Nat) (budget : τ) (course : Course τ) :
    (course.enter .check >>= runner.checkPhase files critical token budget : Act τ σ (Course τ)).Lasting base := by
  refine Act.Lasting.bind ?_ fun entered => lasting_checkPhase h files critical token budget entered
  exact .of_drifts .normal fun world => ⟨_, course.drifts_enter .check world⟩

omit [Quantity τ] in
theorem fixers_atFix (hnone : ¬ runner.CanFix) : runner.fixers .atFix = [] := by
  refine List.eq_nil_iff_forall_not_mem.mpr fun engine hin => hnone ?_
  obtain ⟨havailable, hfixes⟩ := List.mem_filter.mp hin
  exact ⟨engine, (List.mem_filter.mp havailable).1, hfixes⟩

omit [Quantity τ] in
theorem fixers_atFix_ne (hfixes : runner.CanFix) : runner.fixers .atFix ≠ [] := by
  obtain ⟨engine, hengine, hfix⟩ := hfixes
  exact List.ne_nil_of_mem (List.mem_filter.mpr ⟨List.mem_filter.mpr ⟨hengine, rfl⟩, hfix⟩)

/-- Where no other engine fixes, the fix phase makes no difference to the check phase. -/
theorem oddPhases (h : runner.Joined joined odd) (hname : aspect.name = odd.name) (hpair : (own, like) ∈ aspect.tokens)
    (hnone : ¬ runner.CanFix) (hstart : (Course.atFix : Course τ).Beside odd.name runner.CanFix asked .atFix) (files : List String)
    (critical : Option (List String)) (budget : τ) :
    (runner.fixPhase files critical own .atFix >>= fun fixed =>
      fixed.enter .check >>= runner.checkPhase files critical own budget).Twin aspect asked
      (joined.fixPhase files critical like .atFix >>= fun fixed =>
        fixed.enter .check >>= joined.checkPhase files critical like budget)
      fun later course known => course.Beside odd.name runner.CanFix later known := by
  intro world there hbeside hclear hclear'
  have hskip : (runner.fixPhase files critical own .atFix).on world = (.ok .atFix, world) := by
    rw [Runner.fixPhase_eq, Act.on_bind_of_ok (Act.on_isCancelled own world), fixers_atFix hnone]
    rfl
  rw [Act.on_bind_of_ok hskip] at hclear ⊢
  have hodd := h.oddFixPhase hname hnone hpair hstart hbeside files critical
  rw [Act.on_bind (joined.fixPhase files critical like .atFix)] at hclear' ⊢
  rcases hon : (joined.fixPhase files critical like .atFix).on there with ⟨outcome, middle⟩
  rw [hon] at hclear' hodd
  have hmiddle : middle.Clear aspect.base := by
    cases outcome with
    | error fault => exact hclear'
    | ok known =>
        exact lasting_enterCheck (bind_stopped h.lasting_joined aspect.base) files critical like budget known middle hclear'
  rcases hodd hmiddle with ⟨later, known, houtcome, hknown, hafter⟩ | ⟨fault, hfiles, horder, houtcome, hafter⟩
  · obtain rfl : outcome = _ := houtcome
    exact h.enterCheck hname hpair hknown files critical budget world middle hafter hclear hclear'
  · obtain rfl : outcome = _ := houtcome
    have hentered : Act.Drifts aspect.level (Course.atFix.enter .check) world
        (.ok { Course.initial with tracker := ⟨.check, [.start, .fix, .check]⟩ }) := Course.atFix.drifts_enter .check world
    obtain ⟨after, hfails, hdrifted⟩ := hentered.bind fun after hafter =>
      runner.drifts_checkPhase_error hfiles (hafter.same.disk ▸ horder) own budget _
    rw [hfails]
    exact ⟨asked, World.Beside.drifted hafter hdrifted (.refl middle), .error fault⟩

/-- The phases of a run, after which at most the failure of the broken engine is known besides. -/
theorem phases (h : runner.Joined joined odd) (hname : aspect.name = odd.name) (hpair : (own, like) ∈ aspect.tokens)
    (files : List String) (critical : Option (List String)) (budget : τ) :
    (runner.phases files critical own budget).Twin aspect false (joined.phases files critical like budget)
      fun later course known => course.Beside odd.name runner.CanFix later known := by
  have hstart : (Course.initial : Course τ).Beside odd.name runner.CanFix false Course.initial :=
    ⟨rfl, fun _ => rfl, rfl, by simp [Course.initial]⟩
  have hfixing : (Course.atFix : Course τ).Beside odd.name runner.CanFix false .atFix :=
    ⟨rfl, fun _ => rfl, rfl, hstart.signed⟩
  have hentered : ∀ world : World τ σ, world.Pressed aspect.level →
      Act.Drifts aspect.level (Course.initial.enter .fix) world (.ok .atFix) :=
    fun world _ => Course.initial.drifts_enter .fix world
  unfold Runner.phases Runner.fixFirst
  refine Act.Twin.along fun world there hbeside => ?_
  obtain ⟨after, after', hon, hon', hafter⟩ := hbeside.startMonitor
  refine ⟨.ok (), .ok (), after, after', hon, hon', hafter, .ok ?_⟩
  rw [h.config]
  by_cases hfix : runner.config.execution.fix = true
  · simp only [hfix, if_true, bind_assoc]
    refine Act.Twin.step hentered hentered ?_
    by_cases hfixes : runner.CanFix
    · refine (h.fixPhase hname hpair hfixing (fun hnone => absurd hnone (fixers_atFix_ne hfixes)) files critical).bind
        (fun later fixed known hfixed => h.enterCheck hname hpair hfixed files critical budget)
        (lasting_enterCheck (bind_stopped h.lasting aspect.base) files critical own budget)
        (lasting_enterCheck (bind_stopped h.lasting_joined aspect.base) files critical like budget)
    · exact h.oddPhases hname hpair hfixes hfixing files critical budget
  · simp only [hfix, Bool.false_eq_true, if_false, pure_bind]
    exact h.enterCheck hname hpair hstart files critical budget

end Joined

end Runner

end FixFirst
