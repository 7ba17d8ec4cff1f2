/-!
# Structured data

The data that configurations and commands are read from, whichever text format
they were written in. Integers and floating-point numbers stay apart, because
fields that count accept no fractions. The entries of a table have distinct keys.
-/

namespace GroundStation

/-- A datum. -/
inductive Value where
  | null
  | boolean (value : Bool)
  | integer (value : Int)
  | real (value : Float)
  | text (value : String)
  | dateTime
  | list (items : List Value)
  | table (entries : List (String × Value))
deriving Repr

namespace Value

/-- The datum under a key in the entries of a table. -/
def find? (entries : List (String × Value)) (key : String) : Option Value :=
  (entries.find? fun e => e.1 == key).map (·.2)

/-- Puts a datum under a key, in place of what was there. -/
def put (entries : List (String × Value)) (key : String) (value : Value) :
    List (String × Value) :=
  if entries.any fun e => e.1 == key then
    entries.map fun e => if e.1 == key then (key, value) else e
  else entries ++ [(key, value)]

end Value

end GroundStation
