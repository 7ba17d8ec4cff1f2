import GroundStation.Number.Shortest

/-!
# Numbers as text

The station writes a number with the fewest digits that identify it in its own
precision, always positionally: `1e21` is a one and twenty-one zeros, and there
is never an exponent. Whole numbers carry no point. The sign of zero is kept.
-/

namespace GroundStation

/-- The decimal digits of a natural number, most significant first. -/
def digitChars (n : Nat) : List Char :=
  if n < 10 then [Char.ofNat (48 + n)]
  else digitChars (n / 10) ++ [Char.ofNat (48 + n % 10)]
termination_by n
decreasing_by omega

/-- The text of a natural number. -/
def naturalText (n : Nat) : String := String.ofList (digitChars n)

/-- The positional text of `digits * 10 ^ exponent`: zeros follow the digits of a
large number, a point divides those of another, and a zero stands before the
point of a number below one. -/
def Decimal.positional (d : Decimal) : List Char :=
  let digits := digitChars d.digits
  let places := (-d.exponent).toNat
  if places = 0 then digits ++ List.replicate d.exponent.toNat '0'
  else if places < digits.length then
    digits.take (digits.length - places) ++ '.' :: digits.drop (digits.length - places)
  else '0' :: '.' :: (List.replicate (places - digits.length) '0' ++ digits)

/-- The text of an unsigned finite number of a format. -/
def BinaryFormat.magnitudeChars (f : BinaryFormat) (m : Nat) (q : Int) : List Char :=
  if m = 0 then ['0'] else (f.shortest m q).positional

/-- The text of a value of a format. -/
def BinaryFormat.chars (f : BinaryFormat) : FloatValue → List Char
  | .nan => ['N', 'a', 'N']
  | .infinite negative => if negative then ['-', 'i', 'n', 'f'] else ['i', 'n', 'f']
  | .finite negative m q =>
    if negative then '-' :: f.magnitudeChars m q else f.magnitudeChars m q

/-- The text of a double-precision number. -/
def doubleText (x : Float) : String := String.ofList (binary64.chars (doubleValue x))

/-- The text of a single-precision number. -/
def singleText (x : Float32) : String := String.ofList (binary32.chars (singleValue x))

end GroundStation
