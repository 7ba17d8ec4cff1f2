import GroundStation.Number.Decimal
import GroundStation.Telemetry.Record
import Mathlib.Tactic.IntervalCases
import Mathlib.Tactic.SplitIfs

/-!
# The text record of a sample

A record can be taken apart again because nothing in a number looks like what stands between and
behind the numbers. The text of every number, whatever its bits are, follows a small grammar
(`NumberToken`): a word for what is no finite number, or an optional minus, digits, and perhaps a
point and more digits. It is read off the way in which a decimal is written
(`Decimal.spelled_positional`), where the digits are cut in two only if there are some for each
part. The choice of the decimal does not matter for it.

So a record is split at its commas into the texts of its seventeen fields, in the order of their
names (`Sample.recordText_reads`).

## Main results

* `BinaryFormat.token_chars`: the text of every value of every format follows the grammar.
* `Sample.recordText_reads`: what a record says, and in which order.
-/

namespace GroundStation

/-! ## The grammar of numbers -/

/-- A digit at least, and nothing else. -/
def Digits (cs : List Char) : Prop := cs ≠ [] ∧ ∀ c ∈ cs, isDigit c = true

/-- Digits, or digits on both sides of a point. -/
inductive Spelled : List Char → Prop
  | whole {digits : List Char} : Digits digits → Spelled digits
  | pointed {digits decimals : List Char} :
      Digits digits → Digits decimals → Spelled (digits ++ '.' :: decimals)

/-- The text of a number. -/
inductive NumberToken : List Char → Prop
  | nan : NumberToken ['N', 'a', 'N']
  | infinite : NumberToken ['i', 'n', 'f']
  | negativeInfinite : NumberToken ['-', 'i', 'n', 'f']
  | positive {cs : List Char} : Spelled cs → NumberToken cs
  | negative {cs : List Char} : Spelled cs → NumberToken ('-' :: cs)

/-- The characters that texts of numbers are made of. -/
def isNumberChar (c : Char) : Bool :=
  isDigit c || ['N', 'a', 'i', 'n', 'f', '-', '.'].contains c

theorem Digits.isNumberChar {cs : List Char} (h : Digits cs) :
    ∀ c ∈ cs, isNumberChar c = true := by
  intro c hc
  rw [GroundStation.isNumberChar, h.2 c hc, Bool.true_or]

theorem Spelled.isNumberChar {cs : List Char} (h : Spelled cs) :
    ∀ c ∈ cs, isNumberChar c = true := by
  cases h with
  | whole hdigits => exact hdigits.isNumberChar
  | pointed hdigits hdecimals =>
      refine List.forall_mem_append.mpr ⟨hdigits.isNumberChar, ?_⟩
      exact List.forall_mem_cons.mpr ⟨by decide, hdecimals.isNumberChar⟩

theorem NumberToken.isNumberChar {cs : List Char} (h : NumberToken cs) :
    ∀ c ∈ cs, isNumberChar c = true := by
  cases h with
  | nan => simp [GroundStation.isNumberChar]
  | infinite => simp [GroundStation.isNumberChar]
  | negativeInfinite => simp [GroundStation.isNumberChar]
  | positive hspelled => exact hspelled.isNumberChar
  | negative hspelled => exact List.forall_mem_cons.mpr ⟨by decide, hspelled.isNumberChar⟩

/-- A character that is not in the texts of numbers. -/
theorem NumberToken.not_mem {cs : List Char} (h : NumberToken cs) {c : Char}
    (hc : GroundStation.isNumberChar c = false) : c ∉ cs := by
  intro hmem
  rw [h.isNumberChar c hmem] at hc
  cases hc

/-! ## Decimals as text -/

theorem isDigit_digit {n : Nat} (h : n < 10) : isDigit (Char.ofNat (48 + n)) = true := by
  interval_cases n <;> decide

theorem digits_zero : Digits ['0'] :=
  ⟨List.cons_ne_nil _ _, List.forall_mem_singleton.mpr (by decide)⟩

/-- A natural number is written in digits. -/
theorem digits_digitChars (n : Nat) : Digits (digitChars n) := by
  induction n using digitChars.induct with
  | case1 n hsmall =>
      rw [digitChars, if_pos hsmall]
      exact ⟨List.cons_ne_nil _ _, by simpa using isDigit_digit hsmall⟩
  | case2 n hlarge ih =>
      rw [digitChars, if_neg hlarge]
      refine ⟨by simp, List.forall_mem_append.mpr ⟨ih.2, ?_⟩⟩
      simpa using isDigit_digit (Nat.mod_lt n (by decide))

theorem isDigit_of_mem_replicate {n : Nat} : ∀ c ∈ List.replicate n '0', isDigit c = true := by
  intro c hc
  rw [List.eq_of_mem_replicate hc]
  decide

/-- **A decimal is spelled in digits**, with a point where it has places behind one. -/
theorem Decimal.spelled_positional (d : Decimal) : Spelled d.positional := by
  obtain ⟨hne, hdigits⟩ := digits_digitChars d.digits
  unfold positional
  dsimp only
  split_ifs with hwhole hcut
  · refine .whole ⟨by simp [hne], ?_⟩
    exact List.forall_mem_append.mpr ⟨hdigits, isDigit_of_mem_replicate⟩
  · refine .pointed ⟨?_, ?_⟩ ⟨?_, ?_⟩
    · exact List.ne_nil_of_length_pos (by rw [List.length_take]; omega)
    · exact fun c hc => hdigits c (List.mem_of_mem_take hc)
    · exact List.ne_nil_of_length_pos (by rw [List.length_drop]; omega)
    · exact fun c hc => hdigits c (List.mem_of_mem_drop hc)
  · refine .pointed digits_zero ⟨by simp [hne], ?_⟩
    exact List.forall_mem_append.mpr ⟨isDigit_of_mem_replicate, hdigits⟩

/-- **The text of every value follows the grammar.** -/
theorem BinaryFormat.token_chars (f : BinaryFormat) (v : FloatValue) : NumberToken (f.chars v) := by
  have hspelled : ∀ m q, Spelled (f.magnitudeChars m q) := by
    intro m q
    unfold magnitudeChars
    split_ifs
    · exact .whole digits_zero
    · exact Decimal.spelled_positional _
  cases v with
  | nan => exact .nan
  | infinite negative =>
      cases negative with
      | true => exact .negativeInfinite
      | false => exact .infinite
  | finite negative m q =>
      cases negative with
      | true => exact .negative (hspelled m q)
      | false => exact .positive (hspelled m q)

/-! ## Records -/

theorem joinTokens_eq_intercalate (separator : Char) (tokens : List (List Char)) :
    joinTokens separator tokens = [separator].intercalate tokens := by
  fun_induction joinTokens separator tokens with
  | case1 => rfl
  | case2 token => simp
  | case3 token rest hne ih =>
      cases rest with
      | nil => exact absurd rfl hne
      | cons next rest => simp [ih]

theorem not_mem_joinTokens {separator c : Char} (hc : c ≠ separator) {tokens : List (List Char)}
    (h : ∀ token ∈ tokens, c ∉ token) : c ∉ joinTokens separator tokens := by
  fun_induction joinTokens separator tokens with
  | case1 => exact List.not_mem_nil
  | case2 token => exact h token (List.mem_singleton_self _)
  | case3 token rest hne ih =>
      obtain ⟨hfirst, hrest⟩ := List.forall_mem_cons.mp h
      simp [hfirst, hc, ih hrest]

theorem RecordField.token_text (s : Sample) (field : RecordField) : NumberToken (field.text s) := by
  cases field <;> exact BinaryFormat.token_chars _ _

namespace Sample

/-- What a record says: the names of its fields, in the order in which they are written, and the
texts of their numbers, of which the time is in seconds. -/
def namedTexts (s : Sample) : List (String × String) :=
  [("time", doubleText (doubleOfInt s.timestamp / 1000.0)),
    ("latitude", doubleText s.position.latitude),
    ("longitude", doubleText s.position.longitude),
    ("altitude", singleText s.position.absoluteAltitude),
    ("vel_north", singleText s.velocity.north),
    ("vel_east", singleText s.velocity.east),
    ("vel_down", singleText s.velocity.down),
    ("acc_forward", singleText s.imu.acceleration.forward),
    ("acc_right", singleText s.imu.acceleration.right),
    ("acc_down", singleText s.imu.acceleration.down),
    ("gyro_forward", singleText s.imu.angularVelocity.forward),
    ("gyro_right", singleText s.imu.angularVelocity.right),
    ("gyro_down", singleText s.imu.angularVelocity.down),
    ("temperature", singleText s.imu.temperature),
    ("mag_forward", singleText s.imu.magneticField.forward),
    ("mag_right", singleText s.imu.magneticField.right),
    ("mag_down", singleText s.imu.magneticField.down)]

theorem namedTexts_eq (s : Sample) :
    s.namedTexts = RecordField.all.map fun field => (field.name, String.ofList (field.text s)) :=
  rfl

/-- A record without its line end. -/
def recordBody (s : Sample) : List Char :=
  joinTokens ',' (RecordField.all.map (RecordField.text s))

theorem toList_recordText (s : Sample) : s.recordText.toList = s.recordBody ++ ['\n'] :=
  String.toList_ofList

/-- The texts of the fields are what stands between the commas. -/
theorem splitOn_recordBody (s : Sample) :
    s.recordBody.splitOn ',' = RecordField.all.map (RecordField.text s) := by
  unfold recordBody
  rw [joinTokens_eq_intercalate]
  refine List.splitOn_intercalate ',' (fun token htoken => ?_) (by simp [RecordField.all])
  obtain ⟨field, -, rfl⟩ := List.mem_map.mp htoken
  exact (field.token_text s).not_mem (by decide)

theorem not_mem_recordBody (s : Sample) : '\n' ∉ s.recordBody := by
  refine not_mem_joinTokens (by decide) fun token htoken => ?_
  obtain ⟨field, -, rfl⟩ := List.mem_map.mp htoken
  exact (field.token_text s).not_mem (by decide)

/-- **A text that is the record of a sample**: a line end behind it and no other in it; between the
commas the texts of the seventeen fields in the order of their names; each of them a number as
numbers are written, without an exponent. -/
structure IsRecord (s : Sample) (text : String) : Prop where
  line : ∃ body, text.toList = body ++ ['\n'] ∧ '\n' ∉ body ∧
    (body.splitOn ',').map String.ofList = s.namedTexts.map Prod.snd
  names : s.namedTexts.map Prod.fst = RecordField.all.map RecordField.name
  seventeen : s.namedTexts.length = 17
  tokens : ∀ token ∈ s.namedTexts.map Prod.snd,
    NumberToken token.toList ∧ 'e' ∉ token.toList ∧ 'E' ∉ token.toList

/-- **What the record of a sample says**, whatever the bits of its numbers are. The attitude and the
altitude above the take-off point make no difference. -/
theorem recordText_reads (s : Sample) :
    s.IsRecord s.recordText ∧ ∀ attitude relative,
      { s with
        attitude := attitude
        position := { s.position with relativeAltitude := relative } }.recordText =
          s.recordText := by
  refine ⟨⟨⟨s.recordBody, s.toList_recordText, s.not_mem_recordBody, ?_⟩, rfl, rfl, ?_⟩,
    fun _ _ => rfl⟩
  · rw [splitOn_recordBody, namedTexts_eq, List.map_map, List.map_map]
    rfl
  · intro token htoken
    rw [namedTexts_eq, List.map_map] at htoken
    obtain ⟨field, -, rfl⟩ := List.mem_map.mp htoken
    have htext := field.token_text s
    simp only [Function.comp_apply, String.toList_ofList]
    exact ⟨htext, htext.not_mem (by decide), htext.not_mem (by decide)⟩

end Sample

end GroundStation
