import FixFirst.Pressure
import FixFirst.Text.Blank
import FixFirst.Text.Digit

/-!
# Monitoring memory

A monitor keeps the last readings of the memory in use and classifies each new one.  The first
reading stays as the baseline of growth.

## Main definitions

* `Monitor.sample` — takes a reading: notes it, and judges it.
* `Monitor.growth` — how far the latest reading lies above the first one.
* `residentBytes` — the memory in use, from what the system reports.
-/

namespace FixFirst

/-- A classified reading. -/
structure Sample (τ : Type) where
  time : τ
  bytes : Int
  growth : τ
  level : Level
  deriving Repr

/-- The state of a monitor. -/
structure Monitor (τ : Type) where
  config : ResourceConfig τ
  /-- The last readings, oldest first. -/
  window : List (Point τ)
  /-- The memory in use at the first reading. -/
  baseline : Option Int
  latest : Option (Sample τ)
  /-- Whether readings are being taken in the background. -/
  running : Bool
  deriving Repr

namespace Monitor

variable {τ : Type} [Quantity τ]

/-- The longest window that can be kept. -/
def longestWindow : Nat := 0x7fffffffffffffff

/-- A monitor without readings, if its window can be kept. -/
def make (config : ResourceConfig τ) : Except Fault (Monitor τ) :=
  if longestWindow < config.window then .error (.overflow "the window is too long")
  else .ok ⟨config, [], none, none, false⟩

/-- The last `limit` of a list and one more item. -/
def push {α : Type} (limit : Nat) (items : List α) (item : α) : List α :=
  let grown := items ++ [item]
  grown.drop (grown.length - limit)

/-- Notes a reading. -/
def note (monitor : Monitor τ) (time : τ) (bytes : Int) : Monitor τ :=
  { monitor with
    baseline := some (monitor.baseline.getD bytes)
    window := push monitor.config.window monitor.window ⟨time, bytes⟩ }

/-- Classifies a reading by what is in the window. -/
def judge (monitor : Monitor τ) (time : τ) (bytes : Int) : Except Fault (Sample τ) := do
  let growth ← slope monitor.window monitor.config.interval
  return ⟨time, bytes, growth, ← monitor.config.classify bytes (.measured growth)⟩

/-- Notes a reading, and classifies it by what is in the window then. -/
def sample (monitor : Monitor τ) (time : τ) (bytes : Int) : Except Fault (Sample τ) × Monitor τ :=
  let noted := monitor.note time bytes
  match noted.judge time bytes with
  | .ok sample => (.ok sample, { noted with latest := some sample })
  | .error fault => (.error fault, noted)

/-- The settings of a monitor stay. -/
theorem config_sample (monitor : Monitor τ) (time : τ) (bytes : Int) :
    (monitor.sample time bytes).2.config = monitor.config := by
  simp only [sample]
  split <;> rfl

/-- The growth of the memory in use since the first reading. -/
def growth (monitor : Monitor τ) : Int :=
  match monitor.baseline, monitor.latest with
  | some first, some last => last.bytes - first
  | _, _ => 0

end Monitor

/-- The memory in use in bytes: the second word of the system's report counts pages; without
a readable report, the peak stands in, which some systems count in kibibytes. -/
def residentBytes (report : Option String) (pageSize peak : Int) (peakInBytes : Bool) : Int :=
  let pages := do
    let text ← report
    guard (text.toList.all fun c => c.val < 128)
    let word ← (Text.words text.toList)[1]?
    Text.wholeNumber? word
  match pages with
  | some count => count * pageSize
  | none => if peakInBytes then peak else peak * 1024

end FixFirst
