import GroundStation.Number.Shortest

/-!
# Reading decimal numbers

A decimal text is read to the nearest number of the format that is asked for,
directly: a text read to single precision never passes through double precision.
`NumberSyntax` is the text once read, before any rounding.
-/

namespace GroundStation

/-- A number as written: its sign and either a decimal, an infinity or no number. -/
inductive NumberSyntax where
  | nan
  | infinite (negative : Bool)
  | decimal (negative : Bool) (value : Decimal)
deriving DecidableEq, Repr

/-- The value of a run of decimal digits. -/
def digitsValue (cs : List Char) : Nat :=
  cs.foldl (fun n c => 10 * n + (c.toNat - 48)) 0

/-- Is `c` one of the ten decimal digits of ASCII? -/
def isDigit (c : Char) : Bool := '0' ≤ c && c ≤ '9'

namespace BinaryFormat

/-- The bit pattern nearest to a decimal. Decimals far outside every format are
settled by their size alone. -/
def nearestDecimal (f : BinaryFormat) (d : Decimal) : Nat :=
  if d.digits = 0 ∨ d.exponent < -(400 + d.digits.log2 : Nat) then 0
  else if 400 < d.exponent then f.infinity
  else f.nearest (d.digits * Nat.pow 10 d.exponent.toNat) (Nat.pow 10 (-d.exponent).toNat)

end BinaryFormat

namespace NumberSyntax

/-- Reads an optional exponent: nothing, or a mark, an optional sign and digits up
to the end. -/
def exponent? : List Char → Option Int
  | [] => some 0
  | mark :: rest =>
    if mark = 'e' ∨ mark = 'E' then
      let (negative, digits) := match rest with
        | '-' :: ds => (true, ds)
        | '+' :: ds => (false, ds)
        | ds => (false, ds)
      if digits.isEmpty ∨ ¬ digits.all isDigit then none
      else
        let value : Int := digitsValue digits
        some (if negative then -value else value)
    else none

/-- Reads an unsigned decimal: digits with a point anywhere among them, at least
one digit, and an optional exponent. -/
def decimal? (cs : List Char) : Option Decimal :=
  let whole := cs.takeWhile isDigit
  let rest := cs.dropWhile isDigit
  let (fraction, tail) := match rest with
    | '.' :: more => (more.takeWhile isDigit, more.dropWhile isDigit)
    | _ => ([], rest)
  if whole.isEmpty ∧ fraction.isEmpty then none
  else (exponent? tail).map fun e => ⟨digitsValue (whole ++ fraction), e - fraction.length⟩

/-- Reads a number: an optional sign, then a decimal or one of the words `inf`,
`infinity` and `nan` in any case. -/
def ofChars? (cs : List Char) : Option NumberSyntax :=
  let (negative, body) := match cs with
    | '-' :: rest => (true, rest)
    | '+' :: rest => (false, rest)
    | rest => (false, rest)
  let word := body.map Char.toLower
  if word = "inf".toList ∨ word = "infinity".toList then some (.infinite negative)
  else if word = "nan".toList then some .nan
  else (decimal? body).map (.decimal negative)

/-- The double-precision number nearest to a number as written. -/
def toDouble : NumberSyntax → Float
  | .nan => doubleNaN
  | .infinite negative => doubleOfPattern negative binary64.infinity
  | .decimal negative d => doubleOfPattern negative (binary64.nearestDecimal d)

/-- The single-precision number nearest to a number as written. -/
def toSingle : NumberSyntax → Float32
  | .nan => singleNaN
  | .infinite negative => singleOfPattern negative binary32.infinity
  | .decimal negative d => singleOfPattern negative (binary32.nearestDecimal d)

end NumberSyntax

end GroundStation
