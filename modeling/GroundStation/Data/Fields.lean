import GroundStation.Number.Binary
import GroundStation.Data.Value

/-!
# Reading records from structured data

A record is written as a table, where every field has its key and unknown keys are
ignored, or as a list, where the fields stand in the order of their declaration.
`Fields.take` reads one field of either form and returns the fields left; reading
the fields in order of declaration reads both forms.
-/

namespace GroundStation

namespace Value

/-- A truth value. -/
def toBool? : Value → Option Bool
  | .boolean b => some b
  | _ => none

/-- A text. -/
def toText? : Value → Option String
  | .text s => some s
  | _ => none

/-- A double-precision number; an integer counts as one. -/
def toDouble? : Value → Option Float
  | .integer n => some (doubleOfInt n)
  | .real x => some x
  | _ => none

/-- A single-precision number; an integer is rounded to it directly. -/
def toSingle? : Value → Option Float32
  | .integer n => some (singleOfInt n)
  | .real x => some (narrow x)
  | _ => none

/-- The first number that is too large to count with. -/
def countLimit : Nat := Nat.pow 2 64

/-- An integer from zero up to a limit that it does not reach. -/
def toNatBelow? (limit : Nat) : Value → Option Nat
  | .integer n => if 0 ≤ n ∧ n.toNat < limit then some n.toNat else none
  | _ => none

/-- A datum that may be absent, written as null. -/
def toOption? {α : Type} (read : Value → Option α) : Value → Option (Option α)
  | .null => some none
  | v => (read v).map some

end Value

/-- The fields of a record that are left to read. -/
inductive Fields where
  | named (entries : List (String × Value))
  | ordered (items : List Value)

namespace Fields

/-- The fields of a record written as a table or a list. A date is a table of keys
that no record knows. -/
def ofValue? : Value → Option Fields
  | .table entries => some (.named entries)
  | .list items => some (.ordered items)
  | .dateTime => some (.named [])
  | _ => none

variable {α : Type}

/-- Reads the next field; an absent one has the value given for its form of
absence, or the record is invalid. -/
def takeOr (ifUnnamed ifUnordered : Option α) (fields : Fields) (key : String)
    (read : Value → Option α) : Option (α × Fields) :=
  match fields with
  | .named entries =>
    match Value.find? entries key with
    | some v => (read v).map fun x => (x, fields)
    | none => ifUnnamed.map fun x => (x, fields)
  | .ordered (v :: rest) => (read v).map fun x => (x, .ordered rest)
  | .ordered [] => ifUnordered.map fun x => (x, fields)

/-- Reads a field that has to be there. -/
def take (fields : Fields) (key : String) (read : Value → Option α) : Option (α × Fields) :=
  fields.takeOr none none key read

/-- Reads a field that has a default. -/
def takeD (fields : Fields) (key : String) (read : Value → Option α) (default : α) :
    Option (α × Fields) :=
  fields.takeOr (some default) (some default) key read

/-- Is nothing left of a list of fields? -/
def isDone : Fields → Bool
  | .named _ => true
  | .ordered items => items.isEmpty

end Fields

end GroundStation
