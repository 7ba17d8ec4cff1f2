import GroundStation.Number.Decimal
import GroundStation.Data.Hexadecimal
import GroundStation.Data.Value

/-!
# Reading JSON

A reader for JSON texts. A number without point and exponent is an integer as
long as it fits 64 bits; every other number, negative zero included, is rounded
to double precision. Where a key is repeated the last value counts.

Values nest, so the readers below share a count that the reader of a whole text
starts at twice the length of the text, which no nesting exceeds.
-/

namespace GroundStation.Json

/-- Is `c` white space between tokens? -/
def isBlank (c : Char) : Bool := c == ' ' || c == '\n' || c == '\r' || c == '\t'

/-- The text without leading white space. -/
def skip (cs : List Char) : List Char := cs.dropWhile isBlank

/-- Four hexadecimal digits and the rest. -/
def hexFour? : List Char → Option (Nat × List Char)
  | a :: b :: c :: d :: rest => (hexValue? [a, b, c, d]).map fun n => (n, rest)
  | _ => none

/-- The character of an escape with the text after its `u`; a code unit of a pair
needs its partner. -/
def unicodeEscape? (cs : List Char) : Option (Char × List Char) := do
  let (unit, rest) ← hexFour? cs
  if 0xD800 ≤ unit ∧ unit < 0xDC00 then
    match rest with
    | '\\' :: 'u' :: more =>
      let (low, rest) ← hexFour? more
      if 0xDC00 ≤ low ∧ low < 0xE000 then
        return (Char.ofNat (0x10000 + (unit - 0xD800) * 1024 + (low - 0xDC00)), rest)
      else none
    | _ => none
  else if 0xDC00 ≤ unit ∧ unit < 0xE000 then none
  else return (Char.ofNat unit, rest)

/-- The characters of a string up to its closing quote, and the text after it. -/
def string? : Nat → List Char → List Char → Option (String × List Char)
  | 0, _, _ => none
  | _, _, [] => none
  | _, read, '"' :: rest => some (String.ofList read.reverse, rest)
  | fuel + 1, read, '\\' :: 'u' :: rest => do
    let (c, rest) ← unicodeEscape? rest
    string? fuel (c :: read) rest
  | fuel + 1, read, '\\' :: c :: rest =>
    match [('"', '"'), ('\\', '\\'), ('/', '/'), ('b', '\x08'), ('f', '\x0c'), ('n', '\n'),
        ('r', '\r'), ('t', '\t')].lookup c with
    | some meaning => string? fuel (meaning :: read) rest
    | none => none
  | fuel + 1, read, c :: rest =>
    if c.toNat < 32 ∨ c = '\\' then none else string? fuel (c :: read) rest

/-- Does a character belong to a number? -/
def isNumeric (c : Char) : Bool :=
  isDigit c || c == '-' || c == '+' || c == '.' || c == 'e' || c == 'E'

/-- The datum a number stands for. -/
def number? (cs : List Char) : Option Value := do
  let (negative, body) := match cs with
    | '-' :: rest => (true, rest)
    | rest => (false, rest)
  if ¬ (body.head?.any isDigit) then none
  let written ← NumberSyntax.decimal? body
  let real := Value.real (NumberSyntax.decimal negative written).toDouble
  if body.all isDigit then
    let magnitude := digitsValue body
    if negative then
      if magnitude = 0 ∨ Nat.pow 2 63 < magnitude then return real
      else return .integer (-(magnitude : Int))
    else if Nat.pow 2 64 ≤ magnitude then return real
    else return .integer magnitude
  else return real

mutual

/-- A value and the text after it. -/
def value? : Nat → List Char → Option (Value × List Char)
  | 0, _ => none
  | fuel + 1, cs =>
    match skip cs with
    | '"' :: rest => (string? fuel [] rest).map fun (s, rest) => (.text s, rest)
    | '[' :: rest =>
      match skip rest with
      | ']' :: rest => some (.list [], rest)
      | rest => (items? fuel rest).map fun (items, rest) => (.list items, rest)
    | '\x7b' :: rest =>
      match skip rest with
      | '\x7d' :: rest => some (.table [], rest)
      | rest => (entries? fuel [] rest).map fun (entries, rest) => (.table entries, rest)
    | 't' :: 'r' :: 'u' :: 'e' :: rest => some (.boolean true, rest)
    | 'f' :: 'a' :: 'l' :: 's' :: 'e' :: rest => some (.boolean false, rest)
    | 'n' :: 'u' :: 'l' :: 'l' :: rest => some (.null, rest)
    | rest => (number? (rest.takeWhile isNumeric)).map fun v => (v, rest.dropWhile isNumeric)

/-- The items of a list up to its closing bracket. -/
def items? : Nat → List Char → Option (List Value × List Char)
  | 0, _ => none
  | fuel + 1, cs => do
    let (item, rest) ← value? fuel cs
    match skip rest with
    | ',' :: rest =>
      let (items, rest) ← items? fuel rest
      return (item :: items, rest)
    | ']' :: rest => return ([item], rest)
    | _ => none

/-- The entries of a table up to its closing brace, after those already read. -/
def entries? : Nat → List (String × Value) → List Char →
    Option (List (String × Value) × List Char)
  | 0, _, _ => none
  | fuel + 1, read, cs =>
    match skip cs with
    | '"' :: rest => do
      let (key, rest) ← string? fuel [] rest
      match skip rest with
      | ':' :: rest =>
        let (value, rest) ← value? fuel rest
        let read := Value.put read key value
        match skip rest with
        | ',' :: rest => entries? fuel read rest
        | '\x7d' :: rest => return (read, rest)
        | _ => none
      | _ => none
    | _ => none

end

/-- The datum a JSON text describes. -/
def read? (text : String) : Option Value :=
  let cs := text.toList
  match value? (2 * cs.length + 2) cs with
  | some (value, rest) => if (skip rest).isEmpty then some value else none
  | none => none

end GroundStation.Json
