import FixFirst.Proofs.Run.Silence
import FixFirst.Proofs.Session.Upkeep
import FixFirst.Rehearsal.Engine

/-!
# The engines there are

What is known of runs is known of engines that write nothing but commands to the journal, and that put their
own names on their results.  Tools are such engines, whatever the shell is that runs them, as long as it leaves the
journal alone.  So are the engines of a rehearsal, but for the names: a script may have them sign for others.

## Main definitions

* `Act.Gives` — what holds of every value that an act comes to.

## Main statements

* `Engine.discreet_ofTool`, `Engine.signs_ofTool` — tools as engines.
* `Rehearsal.quiet_shell`, `Rehearsal.discreet_engineOf` — the shell and the engines of a rehearsal.
-/

namespace FixFirst

variable {τ σ α β : Type}

/-! ### Commands and nothing else -/

instance : Trans (World.Commanded (τ := τ) (σ := σ)) (World.Commanded (τ := τ) (σ := σ))
    (World.Commanded (τ := τ) (σ := σ)) where
  trans := by
    rintro first second third ⟨commands, hjournal, hcommands⟩ ⟨more, hjournal', hcommands'⟩
    refine ⟨commands ++ more, ?_, fun event hin => ?_⟩
    · rw [hjournal', hjournal, List.append_assoc]
    · exact (List.mem_append.mp hin).elim (hcommands event) (hcommands' event)

theorem World.Commanded.of_journal {before after : World τ σ} (h : after.journal = before.journal) :
    before.Commanded after :=
  ⟨[], by rw [h, List.append_nil], by simp⟩

namespace Act

theorem Keeps.attempt {R : World τ σ → World τ σ → Prop} {act : Act τ σ α} (h : act.Keeps R) : act.attempt.Keeps R :=
  fun world => h world

theorem commanded_of_journal {act : Act τ σ α} (h : ∀ world, (act.on world).2.journal = world.journal) :
    act.Keeps World.Commanded :=
  fun world => .of_journal (h world)

theorem commanded_pure (value : α) : (pure value : Act τ σ α).Keeps World.Commanded := commanded_of_journal fun _ => rfl

theorem commanded_throw (fault : Fault) : (throw fault : Act τ σ α).Keeps World.Commanded :=
  commanded_of_journal fun _ => rfl

theorem commanded_throw_bind (fault : Fault) (next : α → Act τ σ β) :
    ((throw fault : Act τ σ α) >>= next).Keeps World.Commanded :=
  commanded_of_journal fun _ => rfl

theorem commanded_get : (get : Act τ σ (World τ σ)).Keeps World.Commanded := commanded_of_journal fun _ => rfl

theorem commanded_ofExcept (result : Except Fault α) : (ofExcept result : Act τ σ α).Keeps World.Commanded :=
  commanded_of_journal fun world => by rw [on_ofExcept]

theorem commanded_now : (World.now : Act τ σ τ).Keeps World.Commanded := commanded_of_journal fun _ => rfl

theorem commanded_onBench (engine : String) (change : Workbench → Workbench) :
    (World.onBench engine change : Act τ σ Unit).Keeps World.Commanded :=
  commanded_of_journal fun _ => rfl

/-- Whether every value that an act comes to has a property. -/
def Gives (P : α → Prop) (act : Act τ σ α) : Prop :=
  ∀ (world : World τ σ) value after, act.on world = (.ok value, after) → P value

theorem Gives.pure {P : α → Prop} {value : α} (h : P value) : (Pure.pure value : Act τ σ α).Gives P := by
  intro world other after hon
  cases hon
  exact h

/-- What the second part of a sequence comes to, the sequence comes to. -/
theorem Gives.bind {P : β → Prop} {act : Act τ σ α} {next : α → Act τ σ β} (h : ∀ value, (next value).Gives P) :
    (act >>= next).Gives P := by
  intro world other after hon
  obtain ⟨value, middle, -, hnext⟩ := on_bind_ok.mp hon
  exact h value middle other after hnext

end Act

open Act

theorem Shell.commanded_run {shell : Shell τ σ} (hquiet : shell.Quiet) (command : Command) (token : Option Nat) :
    (shell.run command token).Keeps World.Commanded := by
  refine Keeps.bind (fun world => ?_) fun _ => commanded_of_journal (hquiet command token)
  refine ⟨[.command command.arguments (command.directory.map Path.text)], rfl, fun event hin => ?_⟩
  rw [List.mem_singleton.mp hin]
  trivial

/-! ### Tools -/

namespace Tool

variable [Quantity τ] {shell : Shell τ σ}

omit [Quantity τ] in
theorem commanded_invoke (hquiet : shell.Quiet) (tool : Tool) (arguments : List String) (token : Nat) :
    (tool.invoke shell arguments token).Keeps World.Commanded := by
  refine (Shell.commanded_run hquiet _ _).bind fun completed => ?_
  split
  · exact commanded_pure _
  · exact commanded_throw _

omit [Quantity τ] in
theorem commanded_unlessCancelled {act : Act τ σ α} (h : act.Keeps World.Commanded) :
    (unlessCancelled act).Keeps World.Commanded := by
  refine h.attempt.bind fun outcome => ?_
  split
  · exact commanded_pure _
  · exact commanded_pure _
  · exact commanded_throw _

omit [Quantity τ] in
theorem commanded_focusOn (tool : Tool) (files : List String) :
    (tool.focusOn files : Act τ σ Session).Keeps World.Commanded :=
  (commanded_onBench _ _).bind fun _ => commanded_get.bind fun _ => commanded_pure _

omit [Quantity τ] in
theorem commanded_knownIssues (tool : Tool) (files : List String) :
    (tool.knownIssues files : Act τ σ (List Issue)).Keeps World.Commanded :=
  commanded_get.bind fun _ => commanded_pure _

theorem commanded_result {tool : Tool} {pass : Pass} {issues : List Issue} {started : τ} {cancelled : Bool}
    {modified : List String} {fixed : List FixRecord} :
    (tool.result pass issues started cancelled modified fixed : Act τ σ (EngineResult τ)).Keeps World.Commanded :=
  commanded_now.bind fun _ => commanded_pure _

theorem commanded_check (hquiet : shell.Quiet) (tool : Tool) (files : List String) (token : Nat) :
    (tool.check shell files token).Keeps World.Commanded := by
  refine commanded_now.bind fun started => commanded_get.bind fun _ => (commanded_ofExcept _).bind fun targets => ?_
  refine commanded_get.bind fun _ => (commanded_focusOn tool targets).bind fun session => ?_
  dsimp only
  split
  · exact (commanded_onBench _ _).bind fun _ => (commanded_knownIssues tool _).bind fun _ => commanded_result
  · refine (commanded_unlessCancelled (commanded_invoke hquiet tool _ token)).bind fun completed => ?_
    split
    · exact (commanded_knownIssues tool _).bind fun _ => commanded_result
    · exact commanded_get.bind fun _ => (commanded_ofExcept _).bind fun _ => (commanded_onBench _ _).bind fun _ =>
        (commanded_knownIssues tool _).bind fun _ => commanded_result

theorem commanded_fix (hquiet : shell.Quiet) (tool : Tool) (files : List String) (token : Nat) :
    (tool.fix shell files token).Keeps World.Commanded := by
  unfold fix
  split
  · exact commanded_throw_bind _ _
  · refine commanded_now.bind fun started => commanded_get.bind fun _ => (commanded_ofExcept _).bind fun targets => ?_
    refine (commanded_focusOn tool targets).bind fun _ => commanded_get.bind fun _ => (commanded_ofExcept _).bind fun _ => ?_
    refine (commanded_unlessCancelled (commanded_invoke hquiet tool _ token)).bind fun completed => ?_
    exact commanded_get.bind fun _ => (commanded_ofExcept _).bind fun _ => commanded_get.bind fun _ =>
      (commanded_onBench _ _).bind fun _ => commanded_result

/-- Every result of a tool has the name of the tool. -/
theorem gives_result {tool : Tool} {pass : Pass} {issues : List Issue} {started : τ} {cancelled : Bool}
    {modified : List String} {fixed : List FixRecord} :
    (tool.result pass issues started cancelled modified fixed : Act τ σ (EngineResult τ)).Gives
      fun result => result.engine = tool.name :=
  Gives.bind fun _ => Gives.pure rfl

theorem gives_check (shell : Shell τ σ) (tool : Tool) (files : List String) (token : Nat) :
    (tool.check shell files token).Gives fun result => result.engine = tool.name := by
  refine Gives.bind fun _ => Gives.bind fun _ => Gives.bind fun _ => Gives.bind fun _ => Gives.bind fun _ => ?_
  dsimp only
  split
  · exact Gives.bind fun _ => Gives.bind fun _ => gives_result
  · refine Gives.bind fun completed => ?_
    split
    · exact Gives.bind fun _ => gives_result
    · exact Gives.bind fun _ => Gives.bind fun _ => Gives.bind fun _ => Gives.bind fun _ => gives_result

theorem gives_fix (shell : Shell τ σ) (tool : Tool) (files : List String) (token : Nat) :
    (tool.fix shell files token).Gives fun result => result.engine = tool.name := by
  have hsettles : ∀ targets before completed started, (tool.settle targets before completed started :
      Act τ σ (EngineResult τ)).Gives fun result => result.engine = tool.name := fun _ _ _ _ =>
    Gives.bind fun _ => Gives.bind fun _ => Gives.bind fun _ => Gives.bind fun _ => gives_result
  unfold fix
  split
  · intro world value after hon
    cases hon
  · exact Gives.bind fun _ => Gives.bind fun _ => Gives.bind fun _ => Gives.bind fun _ => Gives.bind fun _ =>
      Gives.bind fun _ => Gives.bind fun _ => hsettles _ _ _ _

end Tool

variable [Quantity τ]

/-- A tool as an engine writes nothing but its commands to the journal. -/
theorem Engine.discreet_ofTool {shell : Shell τ σ} (hquiet : shell.Quiet) (tool : Tool) :
    (Engine.ofTool shell tool).Discreet where
  prepares _ _ := .of_journal rfl
  calls pass files token world := by
    rw [Engine.on_call]
    cases pass with
    | check => exact Tool.commanded_check hquiet tool files token world
    | fix => exact Tool.commanded_fix hquiet tool files token world

/-- A tool as an engine puts its name on its results. -/
theorem Engine.signs_ofTool (shell : Shell τ σ) (tool : Tool) : (Engine.ofTool shell tool).Signs := by
  intro pass files token world result hresult
  have hwork := Engine.on_work_of_call (Prod.ext hresult rfl)
  cases pass with
  | check => exact Tool.gives_check shell tool files token world result _ hwork
  | fix => exact Tool.gives_fix shell tool files token world result _ hwork

/-! ### Rehearsals -/

namespace Rehearsal

/-- Whether nothing was written to the journal. -/
def Unwritten (before after : World Float Stage) : Prop := after.journal = before.journal

instance : Trans Unwritten Unwritten Unwritten where
  trans h h' := Eq.trans h' h

theorem unwritten_pure (value : α) : (pure value : Act Float Stage α).Keeps Unwritten := fun _ => rfl

theorem unwritten_throw_bind (fault : Fault) (next : α → Act Float Stage β) :
    ((throw fault : Act Float Stage α) >>= next).Keeps Unwritten :=
  fun _ => rfl

theorem unwritten_get_bind {next : World Float Stage → Act Float Stage α} (h : ∀ world, (next world).Keeps Unwritten) :
    (get >>= next).Keeps Unwritten :=
  Keeps.bind (fun _ => rfl) h

theorem unwritten_moveClock (step : Clockwork Float → Clockwork Float) :
    (World.moveClock step : Act Float Stage Unit).Keeps Unwritten :=
  fun _ => rfl

theorem unwritten_happen (effects : Effects) : effects.happen.Keeps Unwritten := by
  refine Keeps.bind (fun _ => rfl) fun _ => ?_
  cases effects.seconds <;> cases effects.cancel <;> dsimp only
  case none.none => exact unwritten_pure ()
  case none.some reason =>
    refine unwritten_get_bind fun world => ?_
    split
    · exact unwritten_moveClock _
    · exact unwritten_pure ()
  case some.none amount =>
    split
    · exact (unwritten_moveClock _).bind fun _ => unwritten_pure ()
    · exact unwritten_throw_bind _ _
  case some.some amount reason =>
    split
    · refine (unwritten_moveClock _).bind fun _ => unwritten_get_bind fun world => ?_
      split
      · exact unwritten_moveClock _
      · exact unwritten_pure ()
    · exact unwritten_throw_bind _ _

theorem unwritten_checkpoint (token : Option Nat) : (checkpoint token).Keeps Unwritten := by
  unfold checkpoint
  split
  · refine unwritten_get_bind fun world other => ?_
    rw [on_ofExcept]
    rfl
  · exact unwritten_pure ()

/-- The shell of a rehearsal leaves the journal to those who give it commands. -/
theorem quiet_shell : shell.Quiet := by
  intro command token
  refine Keeps.bind (R := Unwritten) (unwritten_checkpoint token) fun _ world => ?_
  rw [on_bind_of_ok (on_get world)]
  split
  · rfl
  · next rule rules _ =>
    rw [on_bind_of_ok (on_set _ world)]
    refine (Keeps.bind (unwritten_happen rule.effects) fun _ => ?_) _
    dsimp only
    split
    · exact unwritten_throw_bind _ _
    · split
      · exact (unwritten_checkpoint token).bind fun _ => unwritten_pure _
      · exact unwritten_pure _

theorem journal_nextPart (player : Player) (pass : Pass) (parts : List Json) (world : World Float Stage) :
    (Change.on (nextPart player pass parts) world).2.journal = world.journal := rfl

theorem journal_playPart (player : Player) (pass : Pass) (part : Json) (files : List String) (token : Nat)
    (world : World Float Stage) :
    (Change.on (playPart player pass part files token) world).2.journal = world.journal := by
  have hhappens : (Change.on (Effects.ofJson part).happen.run world).2.journal = world.journal :=
    unwritten_happen (Effects.ofJson part) world
  unfold playPart
  rw [Change.on_bind]
  generalize Change.on (Effects.ofJson part).happen.run world = happened at hhappens
  obtain ⟨outcome, middle⟩ := happened
  rw [← show middle.journal = world.journal from hhappens]
  cases outcome with
  | error fault => rfl
  | ok value =>
      dsimp only
      split
      · rfl
      · split
        · rfl
        · rw [Change.on_bind, Change.on_isCancelled]
          split <;> rfl

/-- An engine of a rehearsal writes nothing to the journal. -/
theorem discreet_player (player : Player) : player.engine.Discreet where
  prepares _ _ := .of_journal rfl
  calls pass files token world := by
    refine .of_journal ?_
    cases pass with
    | check =>
        show (Change.on (nextPart player .check player.checks >>= fun part => playPart player .check part files token)
          world).2.journal = world.journal
        rw [Change.on_bind, journal_playPart, journal_nextPart]
    | fix =>
        simp only [Engine.call, Player.engine]
        split
        · rfl
        · rw [Change.on_bind, journal_playPart, journal_nextPart]

/-- The engines of a rehearsal write nothing but commands to the journal. -/
theorem discreet_engineOf {value : Json} {engine : Engine Float Stage} (h : engineOf value = .ok engine) :
    engine.Discreet := by
  unfold engineOf at h
  split at h
  · cases htool : toolOf value with
    | error fault => simp [htool, bind, Except.bind] at h
    | ok tool =>
        obtain rfl : Engine.ofTool shell tool = engine := by simpa [htool, bind, Except.bind, pure, Except.pure] using h
        exact Engine.discreet_ofTool quiet_shell tool
  · cases hplayer : Player.ofJson value with
    | error fault => simp [hplayer, bind, Except.bind] at h
    | ok player =>
        obtain rfl : player.engine = engine := by simpa [hplayer, bind, Except.bind, pure, Except.pure] using h
        exact discreet_player player

end Rehearsal

end FixFirst
