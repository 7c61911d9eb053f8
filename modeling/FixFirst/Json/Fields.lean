import FixFirst.Decimal.Read
import FixFirst.Json.Basic
import FixFirst.Quantity

/-!
# Members of JSON objects

Access to the members of an object that are allowed to be absent or of another kind than
expected.
-/

namespace FixFirst.Json

/-- A member, `null` if there is none. -/
def member (value : Json) (key : String) : Json := (value.get? key).getD .null

/-- Whether there is such a member. -/
def has (value : Json) (key : String) : Bool := (value.get? key).isSome

/-- Whether a value counts as something: `null`, falsehood, zero and what is empty do not. -/
def isSomething : Json → Bool
  | .null => false
  | .bool value => value
  | .int value => value != 0
  | .num value => value != 0
  | .str value => !value.isEmpty
  | .arr items => !items.isEmpty
  | .obj members => !members.isEmpty

/-- A text. -/
def asText? : Json → Option String
  | .str text => some text
  | _ => none

/-- A number; a text may spell one. -/
def asNumber? : Json → Option Float
  | .str text => decimal? text.toList
  | .num value => some value
  | .int value => some (nearest (value < 0) value.natAbs 1)
  | _ => none

/-- A number, exactly if it is a whole one. -/
def asAmount? : Json → Option (Amount Float)
  | .int value => some (.whole value)
  | value => value.asNumber?.map .measured

/-- A whole number. -/
def asInteger? : Json → Option Int
  | .int value => some value
  | .num value => (Exact.ofFloat value).truncate?
  | _ => none

/-- A member that is a text. -/
def textAt? (value : Json) (key : String) : Option String := (value.member key).asText?

/-- A member that is a text, or something else instead. -/
def textAt (value : Json) (key : String) (fallback : String := "") : String := (value.textAt? key).getD fallback

/-- A member that is a list of texts. -/
def textsAt? (value : Json) (key : String) : Option (List String) :=
  match value.member key with
  | .arr items => some (items.map fun item => item.asText?.getD "")
  | _ => none

/-- A member that is a list of texts, empty if it is not. -/
def textsAt (value : Json) (key : String) : List String := (value.textsAt? key).getD []

/-- A member that is a number. -/
def numberAt? (value : Json) (key : String) : Option Float := (value.member key).asNumber?

/-- A member that is a number, or something else instead. -/
def numberAt (value : Json) (key : String) (fallback : Float := 0) : Float := (value.numberAt? key).getD fallback

/-- A member that is a number, exactly if it is a whole one. -/
def amountAt? (value : Json) (key : String) : Option (Amount Float) := (value.member key).asAmount?

/-- A member that is a whole number. -/
def integerAt? (value : Json) (key : String) : Option Int := (value.member key).asInteger?

/-- A member that is a natural number, or something else instead. -/
def countAt (value : Json) (key : String) (fallback : Nat := 0) : Nat :=
  ((value.integerAt? key).map Int.toNat).getD fallback

/-- A member that is a truth value, or something else instead. -/
def flagAt (value : Json) (key : String) (fallback : Bool := false) : Bool :=
  match value.member key with
  | .bool value => value
  | _ => fallback

/-- The items of a member that is a list. -/
def itemsAt (value : Json) (key : String) : List Json := (value.member key).items

end FixFirst.Json
