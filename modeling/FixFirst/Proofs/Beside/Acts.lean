import FixFirst.Proofs.Beside.Worlds

/-!
# Acts side by side

An act of one run and its like in the other one are twins when they take worlds that are beside each
other to such worlds, and to outcomes that agree.  That is asked only where no token is cancelled in the
end; as cancellation lasts, none is then cancelled on the way.

## Main definitions

* `Act.Lasting` — an act that takes back no cancellation.
* `Act.Twin` — an act beside another one.

## Main statements

* `Act.Twin.bind`, `Act.Twin.step` — sequences; a first part without calls needs no care.
* `Act.Twin.along`, `Act.Twin.ensuring` — first parts that leave worlds beside each other, and last parts that are
  done whatever came before.
* `Act.Twin.budgeted` — work under tokens of its own, neither of which times out.
-/

namespace FixFirst

variable {τ σ α β α' β' : Type}

/-! ### Cancellation lasts -/

/-- Whether an act takes back no cancellation of the tokens that a run made. -/
def Act.Lasting (base : Nat) (act : Act τ σ α) : Prop :=
  ∀ world, (act.on world).2.Clear base → world.Clear base

/-- The worlds in which a token that a run made is cancelled; anything may go wrong in them. -/
def Limits.stopped (base : Nat) : Limits τ σ where
  world world := ¬ world.Clear base
  path _ := True
  fault _ _ := True

/-- Readings take back no cancellation. -/
theorem Act.Within.stopped_of_sampled {base : Nat} {act : Act τ σ α}
    (h : ∀ world : World τ σ, world.Sampled (act.on world).2) : act.Within (Limits.stopped base) fun _ => True := by
  refine ⟨fun world hstopped hclear => hstopped ?_, fun _ _ _ _ => trivial, fun _ _ _ _ => trivial⟩
  intro token hbase
  rw [← (h world).clock]
  exact hclear token hbase

/-- What keeps a world stopped takes back no cancellation. -/
theorem Act.Within.lasting {base : Nat} {act : Act τ σ α} {P : α → Prop}
    (h : act.Within (Limits.stopped base) P) : act.Lasting base :=
  fun world hclear => not_imp_not.mp (h.world world) hclear

theorem Act.Lasting.bind {base : Nat} {act : Act τ σ α} {next : α → Act τ σ β} (h : act.Lasting base)
    (hnext : ∀ value, (next value).Lasting base) : (act >>= next).Lasting base := by
  intro world hclear
  rw [Act.on_bind] at hclear
  rcases hon : act.on world with ⟨outcome, middle⟩
  rw [hon] at hclear
  have hmiddle : middle.Clear base := by
    cases outcome with
    | ok value => exact hnext value middle hclear
    | error fault => exact hclear
  refine h world ?_
  rw [hon]
  exact hmiddle

theorem Act.Lasting.of_drifts [Quantity τ] {base : Nat} (level : Level) {act : Act τ σ α}
    (h : ∀ world, ∃ result, act.Drifts level world result) : act.Lasting base := by
  intro world hclear
  obtain ⟨result, after, hon, hdrifted⟩ := h world
  rw [hon] at hclear
  exact hdrifted.clear hclear

theorem Act.Lasting.of_lasts {base : Nat} {act : Act τ σ α}
    (h : ∀ world : World τ σ, world.clock.Lasts (act.on world).2.clock) : act.Lasting base :=
  fun world hclear => hclear.of_lasts (h world)

theorem Act.Lasting.ofExcept {base : Nat} (result : Except Fault α) : (Act.ofExcept result : Act τ σ α).Lasting base :=
  .of_lasts fun world => by
    rw [Act.on_ofExcept]
    exact Clockwork.Lasts.refl _

/-- Whether an engine takes back no cancellation. -/
def Engine.Lasting (engine : Engine τ σ) : Prop :=
  ∀ world : World τ σ, (∀ fingerprint, world.clock.Lasts (Change.on (engine.prepare fingerprint) world).2.clock) ∧
    ∀ pass files token, world.clock.Lasts (Change.on (engine.call pass files token) world).2.clock

/-- A run takes back no cancellation when its engines do not. -/
theorem Runner.bind_stopped [Quantity τ] {runner : Runner τ σ} (h : ∀ engine ∈ runner.engines, engine.Lasting)
    (base : Nat) : (Limits.stopped base).Bind runner where
  noted _ _ hstopped := hstopped
  sampled before after hsampled hstopped := by
    obtain ⟨monitor, readings, -, rfl⟩ := hsampled
    exact hstopped
  clocked world clock hmanaged hstopped hclear := hstopped (hclear.of_lasts hmanaged.lasts)
  prepares engine hin fingerprint world hstopped hclear := hstopped (hclear.of_lasts ((h engine hin world).1 fingerprint))
  calls engine hin pass files token world hstopped hclear :=
    hstopped (hclear.of_lasts ((h engine hin world).2 pass files token))
  paths _ _ _ _ := ⟨fun _ _ => trivial, fun _ _ _ _ => trivial⟩
  samples := .stopped_of_sampled World.sampled_sample
  stops := .stopped_of_sampled (World.sampled_stopMonitor runner.longestWait)
  grace _ _ _ := trivial
  faultClocked _ _ _ _ _ := trivial
  faultStopped _ _ _ _ := trivial

/-! ### Outcomes that agree -/

/-- Whether two outcomes are values that go together, or the same fault. -/
inductive Act.Agree (P : α → β → Prop) : Except Fault α → Except Fault β → Prop
  | ok {value : α} {like : β} (together : P value like) : Agree P (.ok value) (.ok like)
  | error (fault : Fault) : Agree P (.error fault) (.error fault)

theorem Act.Agree.mono {P Q : α → β → Prop} {outcome : Except Fault α} {like : Except Fault β}
    (h : Act.Agree P outcome like) (himp : ∀ value other, P value other → Q value other) :
    Act.Agree Q outcome like := by
  cases h with
  | ok together => exact .ok (himp _ _ together)
  | error fault => exact .error fault

theorem Act.Agree.of_eq {P : α → α → Prop} (outcome : Except Fault α) (h : ∀ value, outcome = .ok value → P value value) :
    Act.Agree P outcome outcome := by
  cases outcome with
  | ok value => exact .ok (h value rfl)
  | error fault => exact .error fault

variable [Quantity τ]

/-- Whether an act goes beside another one: where no token is cancelled in the end, it leaves worlds beside each
other, and outcomes that agree. -/
def Act.Twin (aspect : Aspect) (asked : Bool) (act : Act τ σ α) (like : Act τ σ β) (P : Bool → α → β → Prop) : Prop :=
  ∀ world other, world.Beside aspect asked other →
    (act.on world).2.Clear aspect.base → (like.on other).2.Clear aspect.base →
    ∃ later, (act.on world).2.Beside aspect later (like.on other).2 ∧
      Act.Agree (P later) (act.on world).1 (like.on other).1

/-- Whether two acts make no call and come to the same in worlds beside each other. -/
def Act.Alike (aspect : Aspect) (asked : Bool) (act like : Act τ σ α) : Prop :=
  ∀ world other, world.Beside aspect asked other →
    ∃ result, act.Drifts aspect.level world result ∧ like.Drifts aspect.level other result

namespace Act.Alike

variable {aspect : Aspect} {asked : Bool}

theorem pure (value : α) : Act.Alike (τ := τ) (σ := σ) aspect asked (Pure.pure value) (Pure.pure value) :=
  fun world other _ => ⟨.ok value, .pure value world, .pure value other⟩

theorem ofExcept (result : Except Fault α) :
    Act.Alike (τ := τ) (σ := σ) aspect asked (Act.ofExcept result) (Act.ofExcept result) :=
  fun world other _ => ⟨result, .ofExcept result world, .ofExcept result other⟩

theorem bind {act like : Act τ σ α} {next next' : α → Act τ σ β} (h : act.Alike aspect asked like)
    (hnext : ∀ value, (next value).Alike aspect asked (next' value)) :
    (act >>= next).Alike aspect asked (like >>= next') := by
  intro world other hbeside
  obtain ⟨result, hdrifts, hdrifts'⟩ := h world other hbeside
  cases result with
  | error fault => exact ⟨.error fault, hdrifts.bind_error, hdrifts'.bind_error⟩
  | ok value =>
      obtain ⟨middle, hon, hdrifted⟩ := hdrifts
      obtain ⟨middle', hon', hdrifted'⟩ := hdrifts'
      obtain ⟨last, ⟨after, hlast, hmore⟩, ⟨after', hlast', hmore'⟩⟩ :=
        hnext value middle middle' (hbeside.drifted hdrifted hdrifted')
      refine ⟨last, ⟨after, ?_, hdrifted.trans hmore⟩, ⟨after', ?_, hdrifted'.trans hmore'⟩⟩
      · rw [Act.on_bind_of_ok hon, hlast]
      · rw [Act.on_bind_of_ok hon', hlast']

/-- Acts that come to one value under constant pressure. -/
theorem pressed {act like : Act τ σ α} {value : α}
    (h : ∀ world : World τ σ, world.Pressed aspect.level → act.Drifts aspect.level world (.ok value))
    (h' : ∀ world : World τ σ, world.Pressed aspect.level → like.Drifts aspect.level world (.ok value)) :
    act.Alike aspect asked like :=
  fun world other hbeside => ⟨.ok value, h world hbeside.pressed, h' other hbeside.otherPressed⟩

/-- Tokens that are alike have the same time left. -/
theorem remaining? {own like : Nat} (hpair : (own, like) ∈ aspect.tokens) :
    Act.Alike (τ := τ) (σ := σ) aspect asked (World.askClock (·.remaining? own)) (World.askClock (·.remaining? like)) := by
  intro world other hbeside
  refine ⟨_, .askClock _ world, ?_⟩
  rw [← (hbeside.tokens _ hpair).2.2.remaining? hbeside.same.now]
  exact .askClock _ other

end Act.Alike

namespace Act.Twin

variable {aspect : Aspect} {asked : Bool} {P : Bool → α → β → Prop} {Q : Bool → α' → β' → Prop}

theorem mono {act : Act τ σ α} {like : Act τ σ β} {P' : Bool → α → β → Prop} (h : act.Twin aspect asked like P)
    (himp : ∀ later value other, P later value other → P' later value other) : act.Twin aspect asked like P' := by
  intro world other hbeside hclear hclear'
  obtain ⟨later, hafter, hagree⟩ := h world other hbeside hclear hclear'
  exact ⟨later, hafter, hagree.mono (himp later)⟩

theorem pure {value : α} {like : β} (h : P asked value like) :
    Act.Twin (τ := τ) (σ := σ) aspect asked (Pure.pure value) (Pure.pure like) P :=
  fun _ _ hbeside _ _ => ⟨asked, hbeside, .ok h⟩

/-- A sequence beside another one. -/
theorem bind {act : Act τ σ α} {like : Act τ σ β} {next : α → Act τ σ α'} {next' : β → Act τ σ β'}
    (h : act.Twin aspect asked like P)
    (hnext : ∀ later value other, P later value other → (next value).Twin aspect later (next' other) Q)
    (hlasting : ∀ value, (next value).Lasting aspect.base) (hlasting' : ∀ value, (next' value).Lasting aspect.base) :
    (act >>= next).Twin aspect asked (like >>= next') Q := by
  intro world other hbeside hclear hclear'
  rw [Act.on_bind] at hclear
  rw [Act.on_bind] at hclear'
  rw [Act.on_bind, Act.on_bind]
  have hfirst := h world other hbeside
  rcases hon : act.on world with ⟨outcome, middle⟩
  rcases hon' : like.on other with ⟨outcome', middle'⟩
  rw [hon, hon'] at hfirst
  rw [hon] at hclear
  rw [hon'] at hclear'
  have hmiddle : middle.Clear aspect.base := by
    cases outcome with
    | ok value => exact hlasting value middle hclear
    | error fault => exact hclear
  have hmiddle' : middle'.Clear aspect.base := by
    cases outcome' with
    | ok value => exact hlasting' value middle' hclear'
    | error fault => exact hclear'
  obtain ⟨later, hafter, hagree⟩ := hfirst hmiddle hmiddle'
  cases hagree with
  | ok together => exact hnext later _ _ together middle middle' hafter hclear hclear'
  | error fault => exact ⟨later, hafter, .error fault⟩

/-- Sequences whose first parts leave worlds beside each other. -/
theorem along {act : Act τ σ α} {like : Act τ σ β} {next : α → Act τ σ α'} {next' : β → Act τ σ β'}
    (h : ∀ world other, world.Beside aspect asked other → ∃ result result' middle middle', act.on world = (result, middle) ∧
      like.on other = (result', middle') ∧ middle.Beside aspect asked middle' ∧
        Act.Agree (fun value value' => (next value).Twin aspect asked (next' value') Q) result result') :
    (act >>= next).Twin aspect asked (like >>= next') Q := by
  intro world other hbeside hclear hclear'
  obtain ⟨result, result', middle, middle', hon, hon', hmiddle, hagree⟩ := h world other hbeside
  rw [Act.on_bind, hon] at hclear ⊢
  rw [Act.on_bind, hon'] at hclear' ⊢
  cases hagree with
  | ok hnext => exact hnext middle middle' hmiddle hclear hclear'
  | error fault => exact ⟨asked, hmiddle, .error fault⟩

/-- Sequences whose first parts make no call. -/
theorem silently {act : Act τ σ α} {like : Act τ σ β} {next : α → Act τ σ α'} {next' : β → Act τ σ β'}
    (h : ∀ world other, world.Beside aspect asked other → ∃ result result', act.Drifts aspect.level world result ∧
      like.Drifts aspect.level other result' ∧
        Act.Agree (fun value value' => (next value).Twin aspect asked (next' value') Q) result result') :
    (act >>= next).Twin aspect asked (like >>= next') Q := by
  refine along fun world other hbeside => ?_
  obtain ⟨result, result', ⟨middle, hon, hdrifted⟩, ⟨middle', hon', hdrifted'⟩, hagree⟩ := h world other hbeside
  exact ⟨result, result', middle, middle', hon, hon', hbeside.drifted hdrifted hdrifted', hagree⟩

/-- Sequences whose first parts make no call and come to the same in all worlds. -/
theorem step {act : Act τ σ α} {like : Act τ σ β} {next : α → Act τ σ α'} {next' : β → Act τ σ β'} {value : α} {value' : β}
    (h : ∀ world : World τ σ, world.Pressed aspect.level → act.Drifts aspect.level world (.ok value))
    (h' : ∀ world : World τ σ, world.Pressed aspect.level → like.Drifts aspect.level world (.ok value'))
    (hnext : (next value).Twin aspect asked (next' value') Q) :
    (act >>= next).Twin aspect asked (like >>= next') Q :=
  silently fun world other hbeside =>
    ⟨.ok value, .ok value', h world hbeside.pressed, h' other hbeside.otherPressed, .ok hnext⟩

/-- Acts that end at once where their tokens are cancelled; they go on, for no token is cancelled in the end. -/
theorem going {own like : Nat} {next : Bool → Act τ σ α} {next' : Bool → Act τ σ β} {value : α} {value' : β}
    (hpair : (own, like) ∈ aspect.tokens) (hstop : next true = Pure.pure value) (hstop' : next' true = Pure.pure value')
    (hnext : (next false).Twin aspect asked (next' false) P) :
    (World.isCancelled own >>= next).Twin aspect asked (World.isCancelled like >>= next') P := by
  intro world other hbeside hclear hclear'
  obtain ⟨hbase, hbase', -⟩ := hbeside.tokens _ hpair
  rw [Act.on_bind_of_ok (Act.on_isCancelled own world)] at hclear ⊢
  rw [Act.on_bind_of_ok (Act.on_isCancelled like other)] at hclear' ⊢
  cases hcancelled : world.clock.forest.isCancelled own with
  | true =>
      rw [hcancelled, hstop] at hclear
      exact absurd (hcancelled.symm.trans (hclear own hbase)) (by decide)
  | false =>
      cases hcancelled' : other.clock.forest.isCancelled like with
      | true =>
          rw [hcancelled', hstop'] at hclear'
          exact absurd (hcancelled'.symm.trans (hclear' like hbase')) (by decide)
      | false =>
          rw [hcancelled] at hclear
          rw [hcancelled'] at hclear'
          exact hnext world other hbeside hclear hclear'

/-- Sequences whose last parts make no call and cannot fail. -/
theorem settle {act : Act τ σ α} {like : Act τ σ β} {next : α → Act τ σ α'} {next' : β → Act τ σ β'} {f : α → α'}
    {f' : β → β'} (h : act.Twin aspect asked like P)
    (hnext : ∀ value (world : World τ σ), (next value).Drifts aspect.level world (.ok (f value)))
    (hnext' : ∀ value (world : World τ σ), (next' value).Drifts aspect.level world (.ok (f' value)))
    (hlast : ∀ later value other, P later value other → Q later (f value) (f' other)) :
    (act >>= next).Twin aspect asked (like >>= next') Q := by
  refine h.bind (fun later value other htogether world world' hbeside _ _ => ?_)
    (fun value => .of_drifts aspect.level fun world => ⟨_, hnext value world⟩)
    (fun value => .of_drifts aspect.level fun world => ⟨_, hnext' value world⟩)
  obtain ⟨after, hon, hdrifted⟩ := hnext value world
  obtain ⟨after', hon', hdrifted'⟩ := hnext' other world'
  rw [hon, hon']
  exact ⟨later, hbeside.drifted hdrifted hdrifted', .ok (hlast later value other htogether)⟩

/-- What is done afterwards in any case, without a call. -/
theorem thenAlways {act : Act τ σ α} {like : Act τ σ β} {after after' : Change τ σ Unit} (h : act.Twin aspect asked like P)
    (hafter : ∀ world : World τ σ, world.Pressed aspect.level → world.Drifted aspect.level (Change.on after world).2)
    (hafter' : ∀ world : World τ σ, world.Pressed aspect.level → world.Drifted aspect.level (Change.on after' world).2)
    (hlasting : ∀ world : World τ σ, world.clock.Lasts (Change.on after world).2.clock)
    (hlasting' : ∀ world : World τ σ, world.clock.Lasts (Change.on after' world).2.clock) :
    (act.thenAlways after).Twin aspect asked (like.thenAlways after') P := by
  intro world other hbeside hclear hclear'
  rw [Act.on_thenAlways] at hclear
  rw [Act.on_thenAlways] at hclear'
  rw [Act.on_thenAlways, Act.on_thenAlways]
  obtain ⟨later, hdone, hagree⟩ := h world other hbeside (hclear.of_lasts (hlasting _)) (hclear'.of_lasts (hlasting' _))
  exact ⟨later, hdone.drifted (hafter _ hdone.pressed) (hafter' _ hdone.otherPressed), hagree⟩

/-- What is done afterwards in any case, and leaves worlds beside each other; a fault of it is the fault of both. -/
theorem ensuring {act : Act τ σ α} {like : Act τ σ β} {after after' : Act τ σ Unit} (h : act.Twin aspect asked like P)
    (hafter : ∀ later (world other : World τ σ), world.Beside aspect later other → ∃ result done done',
      after.on world = (result, done) ∧ after'.on other = (result, done') ∧ done.Beside aspect later done')
    (hlasting : after.Lasting aspect.base) (hlasting' : after'.Lasting aspect.base) :
    (act.ensuring after).Twin aspect asked (like.ensuring after') P := by
  intro world other hbeside hclear hclear'
  rw [Act.on_ensuring] at hclear
  rw [Act.on_ensuring] at hclear'
  obtain ⟨later, hdone, hagree⟩ := h world other hbeside (hlasting _ hclear) (hlasting' _ hclear')
  obtain ⟨result, last, last', hon, hon', hlast⟩ := hafter later _ _ hdone
  rw [Act.on_ensuring, Act.on_ensuring, hon, hon']
  refine ⟨later, hlast, ?_⟩
  cases result with
  | ok done => exact hagree
  | error fault => exact .error fault

end Act.Twin

/-- Sequences whose first parts make no call and come to the same. -/
theorem Act.Alike.twin {Q : Bool → α' → β' → Prop} {aspect : Aspect} {asked : Bool} {act like : Act τ σ α} {next : α → Act τ σ α'} {next' : α → Act τ σ β'} (h : act.Alike aspect asked like)
    (hnext : ∀ value, (next value).Twin aspect asked (next' value) Q) :
    (act >>= next).Twin aspect asked (like >>= next') Q := by
  refine Act.Twin.silently fun world other hbeside => ?_
  obtain ⟨result, hdrifts, hdrifts'⟩ := h world other hbeside
  refine ⟨result, result, hdrifts, hdrifts', ?_⟩
  cases result with
  | ok value => exact .ok (hnext value)
  | error fault => exact .error fault

/-! ### Work under a token of its own -/

/-- A token of a scope ends with its budget, or with the token above it. -/
theorem Clockwork.deadline?_scopeToken (clock : Clockwork τ) (token : Nat) (budget : τ) :
    (clock.scopeToken token (some budget)).2.forest.deadline? clock.forest.tokens.length =
      Forest.capped (some (clock.now + budget)) (clock.forest.deadline? token) := by
  show (clock.armed (some token) (some (clock.now + budget))).2.forest.deadline? clock.forest.tokens.length = _
  rw [snd_armed, (later_arm _ _).deadline?]
  show (Forest.listen _ token _).deadline? clock.forest.tokens.length = _
  rw [Forest.deadline?_listen]
  unfold Forest.deadline? Forest.token?
  simp

/-- What work under a token of its own comes to. -/
theorem World.on_budgeted_eq (token : Nat) (budget : τ) (work : Nat → Act τ σ α) (world : World τ σ) :
    (World.budgeted token budget work).on world =
      match (work world.clock.forest.tokens.length).on
          { world with clock := (world.clock.scopeToken token (some budget)).2 } with
      | (.ok result, done) =>
        (.ok (result, (done.clock.release world.clock.forest.tokens.length).forest.timedOut world.clock.forest.tokens.length &&
            !(done.clock.release world.clock.forest.tokens.length).expired token),
          { done with clock := done.clock.release world.clock.forest.tokens.length })
      | (.error fault, done) =>
        (.error fault, { done with clock := done.clock.release world.clock.forest.tokens.length }) := by
  have hown : (world.clock.scopeToken token (some budget)).1 = world.clock.forest.tokens.length := Clockwork.fst_armed ..
  rcases hwork : (work world.clock.forest.tokens.length).on
    { world with clock := (world.clock.scopeToken token (some budget)).2 } with ⟨outcome, done⟩
  unfold World.budgeted
  rw [Act.on_bind, Act.on_onClock]
  simp only [hown]
  rw [Act.on_bind, Act.on_thenAlways, Change.on_moveClock, hwork]
  cases outcome <;> rfl

omit [Quantity τ] in
/-- A token that is not cancelled has not timed out. -/
theorem Forest.timedOut_of_active {forest : Forest τ} {token : Nat} (h : forest.isCancelled token = false) :
    forest.timedOut token = false := by
  unfold Forest.timedOut
  unfold Forest.isCancelled at h
  cases hreason : forest.reason? token with
  | none => rfl
  | some reason =>
      rw [hreason] at h
      cases h

/-- Work under a token of its own that only one run does. -/
theorem World.Beside.budgeted {aspect : Aspect} {asked : Bool} {world other : World τ σ}
    (h : world.Beside aspect asked other) (token : Nat) (hbase : aspect.base ≤ other.clock.forest.tokens.length) (budget : τ)
    {work : Nat → Act τ σ α} {P : Bool → α → Prop}
    (hwork : ∀ own opened, world.Beside aspect asked opened → aspect.base ≤ own → ((work own).on opened).2.Clear aspect.base →
      ∃ later value, ((work own).on opened).1 = .ok value ∧ P later value ∧
        world.Beside aspect later ((work own).on opened).2)
    (hclear : ((World.budgeted token budget work).on other).2.Clear aspect.base) :
    ∃ later value, ((World.budgeted token budget work).on other).1 = .ok (value, false) ∧ P later value ∧
      world.Beside aspect later ((World.budgeted token budget work).on other).2 := by
  have hopened := h.drifted (.refl world) (.opened aspect.level other token budget)
  have hdone := hwork other.clock.forest.tokens.length _ hopened hbase
  rw [World.on_budgeted_eq] at hclear ⊢
  rcases hon : (work other.clock.forest.tokens.length).on
    { other with clock := (other.clock.scopeToken token (some budget)).2 } with ⟨outcome, done⟩
  rw [hon] at hclear hdone
  have hreleased := World.Drifted.released aspect.level done other.clock.forest.tokens.length
  have hfinal : World.Clear aspect.base { done with clock := done.clock.release other.clock.forest.tokens.length } := by
    cases outcome <;> exact hclear
  obtain ⟨later, value, rfl, hvalue, hbeside⟩ := hdone (hreleased.clear hfinal)
  refine ⟨later, value, ?_, hvalue, hbeside.drifted (.refl world) hreleased⟩
  simp only [Forest.timedOut_of_active (hfinal _ hbase), Bool.false_and]

/-- Work under tokens of their own, neither of which times out. -/
theorem Act.Twin.budgeted {aspect : Aspect} {asked : Bool} {token like : Nat} (hpair : (token, like) ∈ aspect.tokens)
    (budget : τ) {work : Nat → Act τ σ α} {work' : Nat → Act τ σ β} {P : Bool → α → β → Prop}
    (hwork : ∀ own own', (work own).Twin { aspect with tokens := (own, own') :: aspect.tokens } asked (work' own') P) :
    (World.budgeted token budget work).Twin aspect asked (World.budgeted like budget work')
      fun later answer answer' => P later answer.1 answer'.1 ∧ answer.2 = false ∧ answer'.2 = false := by
  intro world other hbeside hclear hclear'
  obtain ⟨hbase, hbase', hpaired⟩ := hbeside.tokens _ hpair
  have hopened := World.Drifted.opened aspect.level world token budget
  have hopened' := World.Drifted.opened aspect.level other like budget
  have hown : aspect.base ≤ world.clock.forest.tokens.length := Nat.le_trans hbase (Nat.le_of_lt hpaired.here)
  have hown' : aspect.base ≤ other.clock.forest.tokens.length := Nat.le_trans hbase' (Nat.le_of_lt hpaired.there)
  have hlike : (world.clock.scopeToken token (some budget)).2.Paired (other.clock.scopeToken like (some budget)).2
      world.clock.forest.tokens.length other.clock.forest.tokens.length := by
    refine ⟨?_, ?_, ?_⟩
    · exact Nat.lt_of_lt_of_eq (Nat.lt_succ_self _) (Clockwork.length_armed ..).symm
    · exact Nat.lt_of_lt_of_eq (Nat.lt_succ_self _) (Clockwork.length_armed ..).symm
    · rw [Clockwork.deadline?_scopeToken, Clockwork.deadline?_scopeToken, hbeside.same.now, hpaired.deadline]
  have hstart := (hbeside.drifted hopened hopened').more hown hown' hlike
  have hdone := hwork _ _ _ _ hstart
  rw [World.on_budgeted_eq] at hclear
  rw [World.on_budgeted_eq] at hclear'
  rw [World.on_budgeted_eq, World.on_budgeted_eq]
  rcases hon : (work world.clock.forest.tokens.length).on
    { world with clock := (world.clock.scopeToken token (some budget)).2 } with ⟨outcome, done⟩
  rcases hon' : (work' other.clock.forest.tokens.length).on
    { other with clock := (other.clock.scopeToken like (some budget)).2 } with ⟨outcome', done'⟩
  rw [hon] at hclear
  rw [hon'] at hclear'
  rw [hon, hon'] at hdone
  have hreleased := World.Drifted.released aspect.level done world.clock.forest.tokens.length
  have hreleased' := World.Drifted.released aspect.level done' other.clock.forest.tokens.length
  have hfinal : World.Clear aspect.base { done with clock := done.clock.release world.clock.forest.tokens.length } := by
    cases outcome <;> exact hclear
  have hfinal' : World.Clear aspect.base { done' with clock := done'.clock.release other.clock.forest.tokens.length } := by
    cases outcome' <;> exact hclear'
  obtain ⟨later, hafter, hagree⟩ := hdone (hreleased.clear hfinal) (hreleased'.clear hfinal')
  refine ⟨later, ?_, ?_⟩
  · have hreturn : World.Beside aspect later { done with clock := done.clock.release world.clock.forest.tokens.length }
        { done' with clock := done'.clock.release other.clock.forest.tokens.length } :=
      (hafter.fewer fun pair hin => List.mem_cons_of_mem _ hin).drifted hreleased hreleased'
    cases hagree <;> exact hreturn
  · cases hagree with
    | ok together =>
        refine .ok ⟨together, ?_, ?_⟩
        · rw [Forest.timedOut_of_active (hfinal _ hown), Bool.false_and]
        · rw [Forest.timedOut_of_active (hfinal' _ hown'), Bool.false_and]
    | error fault => exact .error fault

end FixFirst
