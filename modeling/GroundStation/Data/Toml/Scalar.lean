import GroundStation.Number.Decimal
import GroundStation.Data.Hexadecimal
import GroundStation.Data.Value

/-!
# TOML: numbers, dates and truth values

A scalar without quotes is one run of letters, digits and the characters of
numbers and dates; what the run may look like is decided on the whole run. Digits
may be divided by single underscores. Integers have 64 bits and a sign. A
floating-point number that overflows upwards is refused.

Dates and times are only checked; no record has a field for one.
-/

namespace GroundStation.Toml

/-- A character of a scalar without quotes. -/
def isScalarChar (c : Char) : Bool :=
  ('a' ≤ c && c ≤ 'z') || ('A' ≤ c && c ≤ 'Z') || isDigit c || c == '+' || c == '-' ||
    c == '_' || c == '.' || c == ':'

/-! ## Numbers -/

/-- The digits of a run in which each underscore stands between two digits. -/
def digitsOf? (isDigit : Char → Bool) : List Char → Option (List Char)
  | [] => none
  | [c] => if isDigit c then some [c] else none
  | c :: '_' :: rest => if isDigit c then (digitsOf? isDigit rest).map (c :: ·) else none
  | c :: rest => if isDigit c then (digitsOf? isDigit rest).map (c :: ·) else none

/-- The sign of a number, and the rest. -/
def splitSign : List Char → Bool × List Char
  | '-' :: rest => (true, rest)
  | '+' :: rest => (false, rest)
  | rest => (false, rest)

/-- The digits of a whole number, which has no needless zero in front. -/
def wholeDigits? (cs : List Char) : Option (List Char) :=
  match digitsOf? isDigit cs with
  | some ['0'] => some ['0']
  | some ('0' :: _) => none
  | found => found

/-- An integer of 64 bits. -/
def bounded? (n : Int) : Option Value :=
  if -(Nat.pow 2 63) ≤ n ∧ n < Nat.pow 2 63 then some (.integer n) else none

/-- An integer: decimal with a sign, or hexadecimal, octal or binary without one. -/
def integer? : List Char → Option Value
  | '0' :: 'x' :: digits => do
    let digits ← digitsOf? (fun c => (hexDigit? c).isSome) digits
    bounded? (← hexValue? digits)
  | '0' :: 'o' :: digits => do
    let digits ← digitsOf? (fun c => '0' ≤ c && c ≤ '7') digits
    bounded? (digits.foldl (fun n c => 8 * n + (c.toNat - 48)) 0 : Nat)
  | '0' :: 'b' :: digits => do
    let digits ← digitsOf? (fun c => c == '0' || c == '1') digits
    bounded? (digits.foldl (fun n c => 2 * n + (c.toNat - 48)) 0 : Nat)
  | cs => do
    let (negative, digits) := splitSign cs
    let digits ← wholeDigits? digits
    bounded? (if negative then -(digitsValue digits : Int) else digitsValue digits)

/-- The exponent of a floating-point number after its mark. -/
def exponent? (cs : List Char) : Option Int := do
  let (negative, digits) := splitSign cs
  let digits ← digitsOf? isDigit digits
  return if negative then -(digitsValue digits : Int) else digitsValue digits

/-- Is `c` the mark of an exponent? -/
def isExponentMark (c : Char) : Bool := c == 'e' || c == 'E'

/-- A floating-point number: a whole number with a fraction, an exponent or both. -/
def float? (cs : List Char) : Option Value := do
  let (negative, body) := splitSign cs
  let mantissa := body.takeWhile fun c => !isExponentMark c
  let exponent ← match body.dropWhile fun c => !isExponentMark c with
    | [] => some none
    | _ :: e => (exponent? e).map some
  let whole ← wholeDigits? (mantissa.takeWhile (· ≠ '.'))
  let fraction ← match mantissa.dropWhile (· ≠ '.') with
    | [] => some none
    | _ :: digits => (digitsOf? isDigit digits).map some
  if exponent.isNone ∧ fraction.isNone then none
  else
    let places := fraction.getD []
    let value : Decimal := ⟨digitsValue (whole ++ places), exponent.getD 0 - places.length⟩
    let x := (NumberSyntax.decimal negative value).toDouble
    if negative ∨ x.isFinite then return .real x else none

/-- An infinity or no number, with or without a sign. -/
def specialFloat? (cs : List Char) : Option Value :=
  let (negative, word) := splitSign cs
  if word = ['i', 'n', 'f'] then some (.real (NumberSyntax.infinite negative).toDouble)
  else if word = ['n', 'a', 'n'] then some (.real doubleNaN)
  else none

/-! ## Dates and times -/

/-- The value of a run of digits of a given length. -/
def fixedDigits? (length : Nat) (cs : List Char) : Option Nat :=
  if cs.length = length ∧ cs.all isDigit then some (digitsValue cs) else none

/-- The days of a month of the Gregorian calendar. -/
def daysIn (year month : Nat) : Nat :=
  if month = 2 then
    if year % 4 = 0 ∧ (year % 100 ≠ 0 ∨ year % 400 = 0) then 29 else 28
  else if month = 4 ∨ month = 6 ∨ month = 9 ∨ month = 11 then 30
  else 31

/-- A date: year, month and day. -/
def isDate (cs : List Char) : Bool :=
  match fixedDigits? 4 (cs.take 4), cs.drop 4 with
  | some year, ['-', m, n, '-', d, e] =>
    match fixedDigits? 2 [m, n], fixedDigits? 2 [d, e] with
    | some month, some day =>
      1 ≤ month && month ≤ 12 && 1 ≤ day && day ≤ daysIn year month
    | _, _ => false
  | _, _ => false

/-- Two digits below a limit. -/
def isBelow (limit : Nat) (a b : Char) : Bool := (fixedDigits? 2 [a, b]).any (· < limit)

/-- What may follow the seconds: a fraction or nothing. -/
def isFraction : List Char → Bool
  | [] => true
  | '.' :: digits => !digits.isEmpty && digits.all isDigit
  | _ => false

/-- A time of day; a minute may have a leap second. -/
def isTime : List Char → Bool
  | h :: i :: ':' :: m :: n :: ':' :: s :: t :: rest =>
    isBelow 24 h i && isBelow 60 m n && isBelow 61 s t && isFraction rest
  | _ => false

/-- An offset from universal time. -/
def isOffset : List Char → Bool
  | [c] => c == 'Z' || c == 'z'
  | [sign, h, i, ':', m, n] => (sign == '+' || sign == '-') && isBelow 24 h i && isBelow 60 m n
  | _ => false

/-- A time of day with or without an offset. -/
def isOffsetTime (cs : List Char) : Bool :=
  let clock := cs.takeWhile fun c => isDigit c || c == ':' || c == '.'
  let offset := cs.dropWhile fun c => isDigit c || c == ':' || c == '.'
  isTime clock && (offset.isEmpty || isOffset offset)

/-- A date, a time, or a date and a time in one run. -/
def isDateTime (cs : List Char) : Bool :=
  isDate cs || isTime cs ||
    (isDate (cs.take 10) &&
      match cs.drop 10 with
      | mark :: time => (mark == 'T' || mark == 't') && isOffsetTime time
      | [] => false)

/-! ## All scalars without quotes -/

/-- The datum that a run stands for. -/
def word? (cs : List Char) : Option Value :=
  if cs = ['t', 'r', 'u', 'e'] then some (.boolean true)
  else if cs = ['f', 'a', 'l', 's', 'e'] then some (.boolean false)
  else if isDateTime cs then some .dateTime
  else specialFloat? cs <|> float? cs <|> integer? cs

/-- A scalar without quotes. A date and a time may stand in two runs with one space
between them. -/
def scalar? (cs : List Char) : Option (Value × List Char) :=
  let run := cs.takeWhile isScalarChar
  let rest := cs.dropWhile isScalarChar
  if isDate run then
    match rest with
    | ' ' :: more =>
      let time := more.takeWhile isScalarChar
      if time.isEmpty then some (.dateTime, rest)
      else if isOffsetTime time then some (.dateTime, more.dropWhile isScalarChar)
      else none
    | _ => some (.dateTime, rest)
  else (word? run).map fun v => (v, rest)

end GroundStation.Toml
