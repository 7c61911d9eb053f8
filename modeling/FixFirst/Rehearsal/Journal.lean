import FixFirst.Rehearsal.Script

/-!
# The journal of a rehearsal

What can be read off the journal after a rehearsal.
-/

namespace FixFirst.Rehearsal

variable {τ : Type}

/-- The commands that were given to the shell. -/
def commands (journal : List (Event τ)) : Json :=
  .arr (journal.filterMap fun event => match event with
    | .command arguments directory => some (.obj [("argv", .ofTexts arguments), ("cwd", .ofOption directory)])
    | _ => none)

/-- The calls of some engines. -/
def calls (engines : List String) (journal : List (Event τ)) : Json :=
  .arr (journal.filterMap fun event => match event with
    | .prepared engine print =>
      if engines.contains engine then some (.ofTexts [engine, "prepare", print]) else none
    | .reset engine => if engines.contains engine then some (.ofTexts [engine, "reset"]) else none
    | .called engine pass files =>
      if engines.contains engine then some (.arr [.str engine, .str pass.name, .ofTexts files]) else none
    | _ => none)

/-- How many workers were taken on each time. -/
def pools (journal : List (Event τ)) : Json :=
  .arr (journal.filterMap fun event => match event with
    | .pool workers => some (.int workers)
    | _ => none)

/-- The remarks. -/
def remarksOf (journal : List (Event τ)) : List String := journal.filterMap Event.remark?

end FixFirst.Rehearsal
