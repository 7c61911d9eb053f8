import FixFirst.Decimal.Nearest
import FixFirst.Keyed

/-!
# JSON values

The values that tools print, that settings are read from and that reports are
made of.  Whole numbers and numbers with a fraction are kept apart, and an object
keeps the order of its members.
-/

namespace FixFirst

/-- A JSON value. -/
inductive Json where
  | null
  | bool (value : Bool)
  | int (value : Int)
  | num (value : Float)
  | str (value : String)
  | arr (items : List Json)
  | obj (members : List (String × Json))
  deriving Inhabited, Repr

namespace Json

/-- The members of an object; any other value has none. -/
def members : Json → Keyed Json
  | obj entries => entries
  | _ => []

/-- The member `key` of an object. -/
def get? (value : Json) (key : String) : Option Json := Keyed.get? value.members key

/-- The items of an array; any other value has none. -/
def items : Json → List Json
  | arr values => values
  | _ => []

/-- A text, or `null` for none. -/
def ofOption (text : Option String) : Json := (text.map str).getD null

/-- An array of texts. -/
def ofTexts (texts : List String) : Json := arr (texts.map str)

/-- Whether a value is a certain text. -/
def isText (value : Json) (text : String) : Bool :=
  match value with
  | str own => own == text
  | _ => false

/-- Whether a value is `null`. -/
def isNull : Json → Bool
  | null => true
  | _ => false

mutual

/-- The value without the members that are `null`, at every depth. -/
def dropNulls : Json → Json
  | arr values => arr (dropNullsItems values)
  | obj entries => obj (dropNullsMembers entries)
  | value => value

/-- `dropNulls` on the items of an array. -/
def dropNullsItems : List Json → List Json
  | [] => []
  | value :: rest => dropNulls value :: dropNullsItems rest

/-- `dropNulls` on the members of an object. -/
def dropNullsMembers : List (String × Json) → List (String × Json)
  | [] => []
  | (key, value) :: rest =>
    if value.isNull then dropNullsMembers rest
    else (key, dropNulls value) :: dropNullsMembers rest

end

mutual

/-- The value with `null` in place of every number that is infinite or undefined. -/
def dropInfinite : Json → Json
  | num value => match Exact.ofFloat value with
    | .finite .. => num value
    | _ => null
  | arr values => arr (dropInfiniteItems values)
  | obj entries => obj (dropInfiniteMembers entries)
  | value => value

/-- `dropInfinite` on the items of an array. -/
def dropInfiniteItems : List Json → List Json
  | [] => []
  | value :: rest => dropInfinite value :: dropInfiniteItems rest

/-- `dropInfinite` on the members of an object. -/
def dropInfiniteMembers : List (String × Json) → List (String × Json)
  | [] => []
  | (key, value) :: rest => (key, dropInfinite value) :: dropInfiniteMembers rest

end

/-- The objects found at the top of a value: the value itself, or those of its items that are
objects. -/
def objects : Json → List (Keyed Json)
  | obj entries => [entries]
  | arr values => values.filterMap fun
    | obj entries => some entries
    | _ => none
  | _ => []

end Json

end FixFirst
