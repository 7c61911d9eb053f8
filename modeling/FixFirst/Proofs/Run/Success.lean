import Mathlib
import FixFirst.Digest.Bytes
import FixFirst.Proofs.Aggregate
import FixFirst.Proofs.Run.Accounting
import FixFirst.Proofs.Run.Checking
import FixFirst.Proofs.Run.Fixing

/-!
# Success is sound

A run that reports success was not cancelled, no batch of it was late, no job of it was lost, and
every engine has covered every file that was not left out: by a check, or by a fix that it reported
precisely and after which no other fixer that counts changed the file.

The engines are arbitrary, as long as they are proper, and so are the readings of the memory, the
order in which jobs come back, and the tokens from before the run.  Times are exact.

## Main statements

* `Runner.setUp_ok` — the tokens of a run are cancelled from the start, or calm.
* `success_sound` — what success means.
* `success_without_cover` — files that are normalised again, and covered as what they are then.
-/

namespace FixFirst

variable {σ : Type} {runner : Runner Rat σ} {request : Request Rat} {world after : World Rat σ} {report : Report Rat}
  {outer : Nat}

/-! ### Setting up -/

theorem Runner.passed_prepare (hproper : ∀ engine ∈ runner.engines, engine.Proper outer) (fingerprints : Keyed String)
    (world : World Rat σ) : world.Passed outer (Change.on (runner.prepare fingerprints) world).2 := by
  unfold Runner.prepare
  generalize runner.engines = engines at hproper
  induction engines generalizing world with
  | nil => exact World.Passed.of_eq rfl rfl
  | cons engine rest ih =>
      simp only [List.forM, Change.on_bind, Change.on_log]
      have hone := (hproper engine List.mem_cons_self).prepares ((fingerprints.get? engine.name).getD "")
        (world.noted [.prepared engine.name ((fingerprints.get? engine.name).getD "")])
      exact ((World.Passed.noted world _).trans hone.toPassed).trans
        (ih _ fun other hin => hproper other (List.mem_cons_of_mem _ hin))

/-- The tokens of a run are numbered on, and the one of its phases is cancelled or calm. -/
theorem Runner.setUp_ok {setup : Setup Rat} {ready : World Rat σ}
    (hproper : ∀ engine ∈ runner.engines, engine.Proper world.clock.forest.tokens.length) (hsound : world.clock.Sound)
    (h : (runner.setUp request).on world = (.ok setup, ready)) :
    world.disk.normalizeAll request.files = .ok setup.files ∧
      setup.phaseToken = world.clock.forest.tokens.length + 1 ∧ world.disk.Alike ready.disk ∧
      (ready.clock.forest.isCancelled setup.phaseToken = true ∨ ready.clock.Calm setup.phaseToken none) := by
  obtain ⟨hfiles, htoken, start, -, -, rfl, hdisk, hclock, -⟩ := Runner.setUp_steps h
  obtain ⟨hnumber, hcalm⟩ := Clockwork.calm_phaseToken hsound (request.timeout.getD runner.config.execution.timeout)
    (request.timeout.getD runner.config.execution.timeout * runner.config.execution.reserveRatio) request.token
  have hphase : setup.phaseToken = world.clock.forest.tokens.length + 1 := htoken.trans hnumber
  have hpassed := Runner.passed_prepare hproper request.fingerprints start
  refine ⟨hfiles, hphase, hdisk ▸ hpassed.disk, ?_⟩
  rw [← hclock] at hcalm
  rw [hphase]
  cases hactive : (Change.on (runner.prepare request.fingerprints) start).2.clock.forest.isCancelled
      (world.clock.forest.tokens.length + 1) with
  | true => exact Or.inl rfl
  | false =>
      have hopen : start.clock.forest.isCancelled (world.clock.forest.tokens.length + 1) = false := hpassed.active hactive
      have hstart := hcalm.resolve_left fun hcancelled => by
        rw [hopen] at hcancelled
        cases hcancelled
      exact Or.inr (hstart.ticks (Nat.le_succ _) hpassed.clock (Clockwork.isCancelled_eq_false.mp hactive))

/-! ### The stages of a run -/

/-- The stages of a run that was in time and whose token is active at the end: the tokens beyond are active,
and both phases left what they should. -/
structure Passage.Stages (passage : Passage runner request world report) (events : List (Event Rat)) : Prop where
  calm : passage.finished.clock.Calm passage.setup.phaseToken none
  journal : passage.finished.journal = passage.ready.journal ++ events
  parts : ∃ fixing entering checking spoken, events = fixing ++ entering ++ checking ++ spoken ∧
    (∀ event ∈ entering, event.Aside) ∧ (∀ event ∈ spoken, event.Aside) ∧
    FixedWell runner passage.scope passage.fixed fixing ∧
    CheckedWell runner passage.entered passage.batches.processed passage.batches.results checking
  asked : ∀ path ∈ request.files, ∃ once file, world.disk.normalize path = .ok once ∧
    world.disk.normalize once = .ok file ∧ file ∈ passage.scope
  accounted : ∀ file ∈ passage.scope, file ∈ passage.batches.processed ∨ file ∈ passage.batches.omitted

theorem Passage.timedOut_eq (passage : Passage runner request world report) :
    passage.course.timedOut = (passage.fixed.timedOut || passage.batches.timedOut.length ≠ 0) := by
  obtain ⟨tracker, events, hentered, -, -⟩ := Course.enter_ok passage.enters
  obtain ⟨omitted, -, hcourse⟩ := passage.recorded
  rw [hcourse]
  have hsame : passage.entered.timedOut = passage.fixed.timedOut := by rw [hentered]
  exact congrArg (· || decide (passage.batches.timedOut.length ≠ 0)) hsame

theorem Passage.exists_stages (passage : Passage runner request world report)
    (hnames : (runner.engines.map (·.name)).Nodup)
    (hproper : ∀ engine ∈ runner.engines, engine.Proper world.clock.forest.tokens.length) (hsound : world.clock.Sound)
    (hactive : passage.finished.clock.forest.isCancelled passage.setup.phaseToken = false)
    (hintime : passage.course.timedOut = false) : ∃ events, passage.Stages events := by
  obtain ⟨hfiles, hphase, hready, hcalm⟩ := Runner.setUp_ok hproper hsound passage.setUp
  have houter : world.clock.forest.tokens.length ≤ passage.setup.phaseToken := by omega
  have hwatching := World.sampled_startMonitor passage.watches
  obtain ⟨tracker, entering, hentered, hchecking, hentering⟩ := Course.enter_ok passage.enters
  obtain ⟨spoken, hfinished, hspoken⟩ := passage.said
  rw [passage.timedOut_eq, Bool.or_eq_false_iff] at hintime
  obtain ⟨hfixed, hbatches⟩ := hintime
  have hnolate : passage.batches.timedOut = [] := by simpa using hbatches
  have hchecked : passage.checked.clock.forest.isCancelled passage.setup.phaseToken = false := by
    rw [hfinished] at hactive
    exact hactive
  have hrested : passage.rested.clock.forest.isCancelled passage.setup.phaseToken = false := by
    have hbefore := Runner.active_of_checkAll passage.checks hchecked
    rw [hchecking] at hbefore
    exact hbefore
  obtain ⟨hcalm', halike, fixing, hfixing, hfixedWell⟩ := Runner.fixFirst_well hproper hnames houter passage.fixes
    (hwatching.clock.symm ▸ hcalm) hrested hfixed
  have hstart : passage.checking.clock.Calm passage.setup.phaseToken none := by
    rw [hchecking]
    exact hcalm'
  obtain ⟨hcalm'', halike', ⟨checking, hjournal, hcheckedWell⟩, haccounted⟩ :=
    Runner.checkAll_well hproper houter passage.checks (Or.inr hstart) hchecked hnolate
  have hwatched : world.disk.Alike passage.watching.disk := hwatching.disk.symm ▸ hready
  have hchecking' : passage.watching.disk.Alike passage.checking.disk := by
    rw [hchecking]
    exact halike
  have hlast : passage.checking.disk.Alike passage.finished.disk := by
    rw [hfinished]
    exact halike'
  have hscope := passage.inScope
  refine ⟨fixing ++ entering ++ checking ++ spoken, ?_, ?_,
    ⟨fixing, entering, checking, spoken, rfl, ?_, fun event hin => (hspoken event hin).aside, ?_, hcheckedWell⟩, ?_, ?_⟩
  · rw [hfinished]
    exact hcalm''
  · rw [hfinished, World.journal_noted, hjournal, hchecking, World.journal_noted, hfixing, hwatching.journal]
    simp only [List.append_assoc]
  · intro event hin
    rcases hentering event hin with hword | rfl
    · exact hword.aside
    · trivial
  · refine hfixedWell passage.scope ?_
    rw [← (hchecking'.trans hlast).normalizeAll, hscope]
  · intro path hpath
    obtain ⟨once, honce, hpathOnce⟩ := Disk.exists_normalize hfiles hpath
    rw [(hwatched.trans (hchecking'.trans hlast)).normalizeAll] at hscope
    obtain ⟨file, hfile, honceFile⟩ := Disk.exists_normalize hscope honce
    exact ⟨once, file, hpathOnce, honceFile, hfile⟩
  · refine haccounted passage.scope ?_
    rw [← hlast.normalizeAll, hscope]

/-! ### Cover -/

/-- An outcome of an engine that is not missing, where no engine failed and no result is cancelled, is a
successful result that was kept. -/
theorem Course.Recorded.good {course : Course Rat} {outcome : Outcome Rat} (h : course.Recorded outcome)
    (hback : outcome.verdict ≠ .abandoned) (hfailed : course.failed = [])
    (havailable : course.unavailable.holds outcome.engine = false)
    (hcomplete : ∀ result ∈ course.results, result.cancelled = false) :
    ∃ result ∈ course.results, outcome.verdict = .result result ∧ result.success = true ∧ result.cancelled = false := by
  unfold Course.Recorded at h
  cases hverdict : outcome.verdict with
  | missing message =>
      simp only [hverdict, havailable, Bool.false_eq_true] at h
  | failure message =>
      simp only [hverdict, hfailed] at h
      cases h
  | abandoned => exact absurd hverdict hback
  | result result =>
      simp only [hverdict, hfailed] at h
      split at h
      · rename_i hgood
        have hwhole := hcomplete result h
        rw [hwhole, Bool.or_false] at hgood
        exact ⟨result, h, rfl, hgood, hwhole⟩
      · cases h

/-- Whether an engine has covered a file: by a call on the file that came back with a successful result,
which was kept.  The call is a check, or a fix by an engine that reports precisely and after which no
other fixer that counts, a later one or any other, reports a change of the file. -/
def Passage.Covered (passage : Passage runner request world report) (events : List (Event Rat)) (engine : Engine Rat σ)
    (file : String) : Prop :=
  ∃ pass result before after, Covers events engine.name pass file ⟨engine.name, pass, .result result⟩ before after ∧
    result ∈ passage.course.results ∧ result.success = true ∧ result.cancelled = false ∧
    (pass = .check ∨
      (pass = .fix ∧ runner.config.execution.fix = true ∧ engine.canFix = true ∧ engine.precise = true ∧
        ∀ other, .completed other ∈ (if runner.config.execution.serialFix then after else before ++ after) →
          other.pass = .fix → other.engine ≠ engine.name →
          ∀ changed, other.verdict = .result changed → file ∉ changed.modified))

section

variable {passage : Passage runner request world report} {events : List (Event Rat)} {engine : Engine Rat σ} {file : String}

/-- What was known before the checks is known in the end. -/
theorem Passage.grown (passage : Passage runner request world report) : passage.entered.Grown passage.course := by
  obtain ⟨omitted, -, hcourse⟩ := passage.recorded
  have htaken := passage.entered.grown_takingAll passage.batches.results.flatten
  rw [hcourse]
  exact ⟨htaken.unavailable, htaken.failed, htaken.results⟩

/-- A file that an engine was asked about in a check batch is covered by that check. -/
theorem Passage.Stages.covered_of_asked (h : passage.Stages events) (hfailed : passage.course.failed = [])
    (hcomplete : ∀ result ∈ passage.course.results, result.cancelled = false) (hin : engine ∈ runner.engines)
    (havailable : passage.course.unavailable.holds engine.name = false) (hprocessed : file ∈ passage.batches.processed)
    (hasked : file ∈ runner.filesFor passage.entered engine [file]) : passage.Covered events engine file := by
  obtain ⟨omitted, -, hcourse⟩ := passage.recorded
  obtain ⟨fixing, entering, checking, spoken, rfl, -, -, -, hchecked⟩ := h.parts
  have hpresent : passage.entered.unavailable.holds engine.name = false := by
    rw [← Bool.not_eq_true] at havailable ⊢
    exact fun hmissing => havailable (passage.grown.unavailable _ hmissing)
  have hfine : passage.entered.failed.holds engine.name = false := by
    rw [← Bool.not_eq_true]
    intro hfail
    have hlast := passage.grown.failed _ hfail
    rw [hfailed] at hlast
    cases hlast
  obtain ⟨outcome, houtcome, before, last, hcovers⟩ := hchecked.covers engine hin hpresent hfine file hprocessed hasked
  have hrecorded : passage.course.Recorded outcome := by
    have htaken := passage.entered.recorded_takingAll houtcome
    rw [hcourse]
    exact htaken
  obtain ⟨result, hresult, hverdict, hgood, hwhole⟩ :=
    hrecorded.good hcovers.back hfailed (hcovers.engine.symm ▸ havailable) hcomplete
  have hextended := hcovers.extend (fixing ++ entering) spoken
  rw [hcovers.outcome_eq hverdict] at hextended
  exact ⟨.check, result, _, _, hextended, hresult, hgood, hwhole, Or.inl rfl⟩

/-- A file that an engine was not asked about again is covered by its fix. -/
theorem Passage.Stages.covered_of_not_asked (h : passage.Stages events) (hfailed : passage.course.failed = [])
    (hcomplete : ∀ result ∈ passage.course.results, result.cancelled = false) (hin : engine ∈ runner.engines)
    (havailable : passage.course.unavailable.holds engine.name = false) (hfile : file ∈ passage.scope)
    (hasked : file ∉ runner.filesFor passage.entered engine [file]) : passage.Covered events engine file := by
  obtain ⟨tracker, words, hentered, -, -⟩ := Course.enter_ok passage.enters
  obtain ⟨fixing, entering, checking, spoken, rfl, hentering, hspoken, hfixed, hchecked⟩ := h.parts
  unfold Runner.filesFor at hasked
  split at hasked
  · rename_i hprecise
    simp only [Bool.and_eq_true] at hprecise
    obtain ⟨⟨hfix, hcan⟩, hexact⟩ := hprecise
    rw [hentered] at hasked
    simp only [List.mem_filter, List.mem_singleton, true_and, Bool.or_eq_true, List.contains_eq_mem,
      decide_eq_true_eq, not_or] at hasked
    rcases hfixed.covers hfix engine hin hcan hexact file hfile with
      hdeferred | hagain | ⟨outcome, before, last, hcovers, hrecorded, hothers⟩
    · exact absurd hdeferred hasked.1
    · exact absurd hagain hasked.2
    · have hcarried : passage.entered.Recorded outcome := by
        rw [hentered]
        exact hrecorded
      obtain ⟨result, hresult, hverdict, hgood, hwhole⟩ :=
        (hcarried.of_grown passage.grown).good hcovers.back hfailed (hcovers.engine.symm ▸ havailable) hcomplete
      have hextended := hcovers.extend [] (entering ++ checking ++ spoken)
      rw [hcovers.outcome_eq hverdict] at hextended
      have hevents : [] ++ fixing ++ (entering ++ checking ++ spoken) = fixing ++ entering ++ checking ++ spoken := by
        simp only [List.nil_append, List.append_assoc]
      rw [hevents] at hextended
      refine ⟨.fix, result, _, _, hextended, hresult, hgood, hwhole, Or.inr ⟨rfl, hfix, hcan, hexact, ?_⟩⟩
      intro other hother hpass hengine changed hchanged
      -- What completed after the fix phase is a check.
      have hlater : .completed other ∉ entering ++ checking ++ spoken := by
        simp only [List.mem_append, not_or]
        refine ⟨⟨fun hword => hentering _ hword, fun hcheck => ?_⟩, fun hword => hspoken _ hword⟩
        rw [hchecked.passes other hcheck] at hpass
        cases hpass
      have hsome : outcome.result?.isSome = true := by
        unfold Outcome.result?
        rw [hverdict]
        rfl
      refine hothers hsome other ?_ hengine changed hchanged
      cases hserial : runner.config.execution.serialFix with
      | true =>
          simp only [hserial, if_true] at hother ⊢
          exact (List.mem_append.mp hother).resolve_right hlater
      | false =>
          simp only [hserial, Bool.false_eq_true, if_false, List.nil_append] at hother ⊢
          rw [← List.append_assoc] at hother
          exact (List.mem_append.mp hother).resolve_right hlater
  · exact absurd List.mem_cons_self hasked

end

/-- **Success is sound.**  When a run of distinct, proper engines reports success, its two tokens and every
token that it made for a batch are active at the end of the checks, no engine failed, no batch was late, every
call came back, and no issue is as grave as those that fail a run.  Every file asked about that is not omitted
has been covered by every engine that is not missing. -/
theorem success_sound (hnames : (runner.engines.map (·.name)).Nodup)
    (hproper : ∀ engine ∈ runner.engines, engine.Proper world.clock.forest.tokens.length) (hsound : world.clock.Sound)
    (hrun : (runner.run request).on world = (.ok report, after)) (hsuccess : report.success = true) :
    ∃ (passage : Passage runner request world report) (events : List (Event Rat)),
      passage.finished.journal = passage.ready.journal ++ events ∧
      passage.finished.clock.isCancelled passage.setup.runToken = false ∧
      passage.finished.clock.isCancelled passage.setup.phaseToken = false ∧
      report.failed = [] ∧
      passage.fixed.timedOut = false ∧ passage.batches.timedOut = [] ∧
      (∀ token, passage.setup.phaseToken < token → passage.finished.clock.isCancelled token = false) ∧
      Smooth events ∧ (∀ event ∈ events, ¬ event.IsLoss) ∧
      (∀ issue ∈ report.issues, issue.severity.atLeast runner.config.execution.failOn = false) ∧
      ∀ path ∈ request.files, ∃ once file, world.disk.normalize path = .ok once ∧ world.disk.normalize once = .ok file ∧
        (file ∉ report.omitted → ∀ engine ∈ runner.engines, engine.name ∉ report.unavailable →
          passage.Covered events engine file) := by
  obtain ⟨passage⟩ := Runner.passage_of_ok hrun
  have hparts := passage.success.symm.trans hsuccess
  simp only [Bool.and_eq_true, Bool.not_eq_true', List.isEmpty_iff] at hparts
  obtain ⟨⟨⟨⟨hissues, hwhole⟩, hfailed⟩, hintime⟩, hgoing⟩ := hparts
  have htokens := passage.cancelled.symm.trans hgoing
  rw [Bool.or_eq_false_iff] at htokens
  obtain ⟨events, hstages⟩ := passage.exists_stages hnames hproper hsound htokens.2 hintime
  have hbatches := hintime
  rw [passage.timedOut_eq, Bool.or_eq_false_iff] at hbatches
  have hsmooth : Smooth events := by
    obtain ⟨fixing, entering, checking, spoken, rfl, hentering, hspoken, hfixed, hchecked⟩ := hstages.parts
    exact ((hfixed.smooth.append (.asides hentering)).append hchecked.smooth).append (.asides hspoken)
  have hcomplete : ∀ result ∈ passage.course.results, result.cancelled = false := by
    intro result hresult
    rw [← Bool.not_eq_true]
    intro hcut
    rw [← Bool.not_eq_true, any_cancelled_mergeResults] at hwhole
    refine hwhole ⟨result, List.mem_filter.mpr ⟨hresult, ?_⟩, hcut⟩
    rw [hfailed]
    rfl
  refine ⟨passage, events, hstages.journal, htokens.1, htokens.2, passage.failed.trans hfailed, hbatches.1,
    by simpa using hbatches.2, fun token hbeyond => ?_, hsmooth, fun event hin => hsmooth.not_loss hin, ?_, ?_⟩
  · refine Clockwork.isCancelled_eq_false.mpr ?_
    exact (hstages.calm.beyond token hbeyond).resolve_right fun hown => by cases hown.1
  · intro issue hissue
    rw [← Bool.not_eq_true]
    exact fun hgrave => List.any_eq_false.mp hissues issue hissue hgrave
  · intro path hpath
    obtain ⟨once, file, hpathOnce, honceFile, hfile⟩ := hstages.asked path hpath
    refine ⟨once, file, hpathOnce, honceFile, fun hkept engine hin hpresent => ?_⟩
    rw [passage.omitted] at hkept
    rw [passage.unavailable, ← Keyed.holds_iff, Bool.not_eq_true] at hpresent
    obtain ⟨omitted, homitted, hcourse⟩ := passage.recorded
    have hprocessed : file ∈ passage.batches.processed := by
      refine (hstages.accounted file hfile).resolve_right fun hleft => hkept ?_
      rw [hcourse]
      exact homitted file hleft
    by_cases hasked : file ∈ runner.filesFor passage.entered engine [file]
    · exact hstages.covered_of_asked hfailed hcomplete hin hpresent hprocessed hasked
    · exact hstages.covered_of_not_asked hfailed hcomplete hin hpresent hfile hasked

/-! ### A run that succeeds -/

/-- A formatter that rewrites a file, if it is there, and says precisely so. -/
def tidier : Engine Rat Unit where
  name := "format"
  kind := .format
  canFix := true
  precise := true
  prepare _ := pure ()
  reset := pure ()
  check _ _ := pure (.result ⟨"format", .format, .check, true, [], 0, none, 0, [], [], false⟩)
  fix _ _ := do
    modify fun world =>
      if "/a" ∈ world.disk.files.keys then { world with disk := world.disk.write "/a" (some (Digest.textBytes "tidy")) } else world
    return .result ⟨"format", .format, .fix, true, [], 0, none, 1, ["/a"], [⟨"/a", none⟩], false⟩

/-- A linter that cannot fix, and takes a second to look at files. -/
def reader : Engine Rat Unit where
  name := "lint"
  kind := .lint
  canFix := false
  precise := false
  prepare _ := pure ()
  reset := pure ()
  check _ _ := do
    World.moveClock (·.advance 1)
    return .result ⟨"lint", .lint, .check, true, [], 1, none, 0, [], [], false⟩
  fix _ _ := pure (.fault (Tool.cannotFix "lint"))

/-- Whatever only lets time pass is proper conduct. -/
theorem conduct_advance (world : World Rat σ) (seconds : Rat) :
    Conduct outer world { world with clock := world.clock.advance seconds } :=
  ⟨⟨.single (.advance _ _), Disk.Alike.refl _⟩, [], (List.append_nil _).symm, by simp⟩

theorem conduct_rest (world : World Rat σ) : Conduct outer world world :=
  ⟨World.Passed.of_eq rfl rfl, [], (List.append_nil _).symm, by simp⟩

/-- Rewriting a file that is there is proper conduct. -/
theorem conduct_write {world : World Rat σ} {path : String} (hthere : path ∈ world.disk.files.keys) (bytes : List UInt8) :
    Conduct outer world { world with disk := world.disk.write path (some bytes) } :=
  ⟨⟨.refl, Disk.alike_write hthere bytes⟩, [], (List.append_nil _).symm, by simp⟩

theorem proper_tidier : tidier.Proper outer where
  prepares _ world := conduct_rest world
  calls pass files token world := by
    cases pass with
    | check => exact conduct_rest world
    | fix =>
        have hfix : (Change.on (tidier.call .fix files token) world).2 =
            if "/a" ∈ world.disk.files.keys then { world with disk := world.disk.write "/a" (some (Digest.textBytes "tidy")) } else world :=
          rfl
        rw [hfix]
        split
        · rename_i hthere
          exact conduct_write hthere (Digest.textBytes "tidy")
        · exact conduct_rest world
  named pass _ _ _ _ h := by cases pass <;> (cases h; rfl)
  returns pass _ _ _ h := by cases pass <;> cases h

theorem proper_reader : reader.Proper outer where
  prepares _ world := conduct_rest world
  calls pass _ _ world := by
    cases pass with
    | check => exact conduct_advance world 1
    | fix => exact conduct_rest world
  named pass _ _ _ _ h := by
    cases pass with
    | check => cases h; rfl
    | fix => cases h
  returns pass _ _ _ h := by cases pass <;> cases h

/-- The two of them. -/
def tidyThenRead : Runner Rat Unit where
  engines := [tidier, reader]
  config := .small
  shell _ _ := pure ⟨0, "", ""⟩
  schedule jobs _ := .inOrder jobs.length
  longestWait := none

/-- A disk with one file. -/
def oneFileDisk : Disk := { Disk.empty [] [] with files := [("/a", Digest.textBytes "untidy")] }

/-- A request about one file, under a token from outside. -/
def oneFileUnder : Request Rat := ⟨["/a"], none, [], none, none, some 0, none⟩

theorem World.sound_still (disk : Disk) (outside : σ) : (World.still disk outside).clock.Sound := by
  have hempty : (Forest.empty : Forest Rat).Sound :=
    ⟨fun _ _ h => (by cases h), fun _ _ _ h => (by cases h), fun _ _ h => (by cases h), rfl⟩
  exact ⟨hempty.add none none, fun timer hin => by cases hin⟩

-- What names hold, and what a disk holds, is evaluated by equations: unfolding texts is slow.
attribute [local irreducible] Path.hasNul Disk.isDirectory Disk.present

theorem tidyThenRead_run :
    ∃ report after, (tidyThenRead.run oneFileUnder).on (World.still oneFileDisk ()) = (.ok report, after) ∧
      report.success = true ∧ report.omitted = [] ∧ report.unavailable = [] := by
  have hrun : ((tidyThenRead.run oneFileUnder).on (World.still oneFileDisk ())).1.toOption.map
      (fun report => (report.success, report.omitted, report.unavailable)) = some (true, [], []) := by
    cbv
  rcases h : (tidyThenRead.run oneFileUnder).on (World.still oneFileDisk ()) with ⟨outcome, after⟩
  rw [h] at hrun
  cases outcome with
  | error fault => cases hrun
  | ok report =>
      have hfields := Option.some.inj hrun
      simp only [Prod.mk.injEq] at hfields
      exact ⟨report, after, rfl, hfields.1, hfields.2.1, hfields.2.2⟩

/-- In a run of the two, both have covered the file. -/
theorem success_sound_tidied :
    ∃ report after, (tidyThenRead.run oneFileUnder).on (World.still oneFileDisk ()) = (.ok report, after) ∧
      report.success = true ∧
      ∃ (passage : Passage tidyThenRead oneFileUnder (World.still oneFileDisk ()) report) (events : List (Event Rat)),
        Smooth events ∧ passage.Covered events tidier "/a" ∧ passage.Covered events reader "/a" := by
  obtain ⟨report, after, hrun, hsuccess, homitted, hunavailable⟩ := tidyThenRead_run
  have hproper : ∀ engine ∈ tidyThenRead.engines,
      engine.Proper (World.still oneFileDisk ()).clock.forest.tokens.length := by
    intro engine hin
    simp only [tidyThenRead, List.mem_cons, List.not_mem_nil, or_false] at hin
    rcases hin with rfl | rfl
    · exact proper_tidier
    · exact proper_reader
  obtain ⟨passage, events, -, -, -, -, -, -, -, hsmooth, -, -, hcovered⟩ :=
    success_sound (by decide) hproper (World.sound_still _ _) hrun hsuccess
  have hnormal : oneFileDisk.normalize "/a" = .ok "/a" := by
    cbv
  obtain ⟨once, file, honce, hfile, hall⟩ := hcovered "/a" List.mem_cons_self
  obtain rfl := Except.ok.inj (hnormal.symm.trans honce)
  obtain rfl := Except.ok.inj (hnormal.symm.trans hfile)
  rw [homitted, hunavailable] at hall
  refine ⟨report, after, hrun, hsuccess, passage, events, hsmooth, hall (by simp) tidier ?_ (by simp),
    hall (by simp) reader ?_ (by simp)⟩
  · exact List.mem_cons_self
  · exact List.mem_cons_of_mem _ List.mem_cons_self

/-! ### Files that are normalised again -/

/-- The linter alone. -/
def onlyReads : Runner Rat Unit := { tidyThenRead with engines := [reader] }

/-- A request about a link, by a path through another link, which leads to itself. -/
def throughLoop : Request Rat := { oneFileUnder with files := ["/loop/../b"] }

theorem onlyReads_run :
    ∃ report after, (onlyReads.run throughLoop).on (World.still .looped ()) = (.ok report, after) ∧
      Disk.looped.normalizeAll throughLoop.files = .ok ["/b"] ∧
      (report.success = true ∧ report.unavailable = [] ∧ report.omitted = []) ∧
      callsIn after.journal = [⟨"lint", .check, ["/c"]⟩] := by
  have hinput : Disk.looped.normalizeAll throughLoop.files = .ok ["/b"] := by
    unfold Disk.normalizeAll throughLoop
    rw [List.mapM_cons, List.mapM_nil, Disk.normalize_looped.1]
    rfl
  have hevaluated : (fun run => (run.1.toOption.map fun report => (report.success, report.unavailable, report.omitted),
        callsIn run.2.journal)) ((onlyReads.run throughLoop).on (World.still .looped ())) =
      (some (true, [], []), [⟨"lint", .check, ["/c"]⟩]) := by
    cbv
  rcases hrun : (onlyReads.run throughLoop).on (World.still .looped ()) with ⟨outcome, after⟩
  rw [hrun] at hevaluated
  obtain ⟨houtcome, hcalls⟩ := Prod.mk.inj hevaluated
  cases outcome with
  | error fault => cases houtcome
  | ok report =>
      have hfields := Option.some.inj houtcome
      simp only [Prod.mk.injEq] at hfields
      exact ⟨report, after, rfl, hinput, hfields, hcalls⟩

/-- A run may succeed though no engine covers the file of its request as that normalises at first: the batches normalise
it again, and the engines are asked about what it is then.  The file differs where the path of the request went through
a link that leads to itself, or where an engine moved it and left a link in its place. -/
theorem success_without_cover :
    (∃ report after, (onlyReads.run throughLoop).on (World.still .looped ()) = (.ok report, after) ∧
      (∀ engine ∈ onlyReads.engines, engine.Proper 1) ∧
      Disk.looped.normalizeAll throughLoop.files = .ok ["/b"] ∧
      report.success = true ∧ report.unavailable = [] ∧ report.omitted = [] ∧
      ∀ call ∈ callsIn after.journal, "/b" ∉ call.files) ∧
    ∃ report after, (moveThenCheck.run oneFile).on (World.still .linkable ()) = (.ok report, after) ∧
      (∀ engine ∈ moveThenCheck.engines, engine.precise = false) ∧
      Disk.linkable.normalizeAll oneFile.files = .ok ["/a"] ∧
      report.success = true ∧ report.unavailable = [] ∧ report.omitted = [] ∧
      ∀ call ∈ callsIn after.journal, call.pass = .check → "/a" ∉ call.files := by
  constructor
  · obtain ⟨report, after, hrun, hinput, ⟨hsuccess, hunavailable, homitted⟩, hcalls⟩ := onlyReads_run
    refine ⟨report, after, hrun, fun engine hin => ?_, hinput, hsuccess, hunavailable, homitted, ?_⟩
    · rw [List.mem_singleton.mp hin]
      exact proper_reader
    · rw [hcalls]
      decide
  · obtain ⟨report, after, hrun, hinput, ⟨hsuccess, -, hunavailable, homitted, -⟩, -, hcalls⟩ := moveThenCheck_run
    refine ⟨report, after, hrun, fun engine hin => ?_, hinput, hsuccess, hunavailable, homitted, ?_⟩
    · rw [List.mem_singleton.mp hin]
      rfl
    · rw [hcalls]
      decide

end FixFirst
