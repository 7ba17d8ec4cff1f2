import GroundStation.Proofs.Time.Scaling
import GroundStation.Time.Backoff
import Mathlib.Data.List.Induction

/-!
# The delays of a backoff

A backoff is asked for delays and reset, in any order. What it hands out is known from the number of
delays since it was new or reset (`Backoff.after_new`), so all its delays lie on one sequence: the
least delay, multiplied again and again and cut off at the greatest.

One expects of such a sequence that it starts at the least delay, never falls, stays between its
ends, and always has a next member (`Backoff.Orderly`). The first is always so, and no delay is
greater than the greatest. The others hang on the arithmetic. The delay after the next one is
computed before the next one is handed out and before it is cut off, so the call fails where the
product is no duration; and a factor of exactly one can make a long delay shorter, because it goes
to double precision and back. Both are decided once and for all by two products
(`Backoff.orderly_iff`): that of the least delay, from which the sequence can rise or fall, and that
of a delay at which it comes to rest.

## Main results

* `Backoff.after_new`: the state of a backoff after any calls.
* `Backoff.orderly_iff`: when the delays are as expected.
-/

namespace GroundStation

/-- What can be asked of a backoff: a delay, or to start over. -/
inductive BackoffCall where
  | next
  | reset

/-- The delays asked for since a backoff was new or reset. -/
def BackoffCall.sinceReset (calls : List BackoffCall) : Nat :=
  calls.foldl (fun n call => match call with
    | .next => n + 1
    | .reset => 0) 0

theorem Duration.nanoseconds_shorter (d e : Duration) :
    (d.shorter e).nanoseconds = min d.nanoseconds e.nanoseconds := by
  unfold shorter
  split <;> omega

namespace Backoff

/-- The backoff after a call. A call that fails leaves it as it is. -/
def call (b : Backoff) : BackoffCall → Backoff
  | .next => b.next.2
  | .reset => b.reset

/-- The backoff after some calls. -/
def after (b : Backoff) (calls : List BackoffCall) : Backoff := calls.foldl call b

/-- The delay that a backoff hands out after some calls; nothing if this call fails. -/
def answer (b : Backoff) (calls : List BackoffCall) : Option Duration :=
  (b.after calls).next?.map Prod.fst

/-- **Delays as one expects them**: there is always one, it lies between the least and the greatest
delay, it is the least one at first and after a reset, and it never falls before the next reset. -/
structure Orderly (b : Backoff) : Prop where
  answers : ∀ calls, b.answer calls ≠ none
  within : ∀ calls d, b.answer calls = some d →
    b.min.nanoseconds ≤ d.nanoseconds ∧ d.nanoseconds ≤ b.max.nanoseconds
  first : b.answer [] = some b.min
  restarts : ∀ calls, b.answer (calls ++ [.reset]) = some b.min
  grows : ∀ calls n d e, b.answer calls = some d →
    b.answer (calls ++ List.replicate (n + 1) .next) = some e → d.nanoseconds ≤ e.nanoseconds

/-- **A twofold backoff** hands out a short delay and doubles it. -/
theorem next_of_two (b : Backoff) (hfactor : b.multiplier = 2.0)
    (hshort : b.current.nanoseconds < 2 ^ 22 * nanosPerSecond) :
    ∃ d, b.next = (b.current, { b with current := d }) ∧
      (d.nanoseconds = 2 * b.current.nanoseconds ∧
          2 * b.current.nanoseconds ≤ b.max.nanoseconds ∨
        d = b.max ∧ b.max.nanoseconds ≤ 2 * b.current.nanoseconds) := by
  obtain ⟨e, he, hdouble⟩ := Duration.scale?_two hshort
  refine ⟨b.max.shorter e, ?_, ?_⟩
  · rw [next, next?, hfactor, he]
    rfl
  · unfold Duration.shorter
    split_ifs with hcut
    · exact .inr ⟨rfl, by omega⟩
    · exact .inl ⟨hdouble, by omega⟩

/-! ## The sequence of delays -/

/-- The delay after so many others. -/
def delay (least most : Duration) (factor : Float) : Nat → Duration
  | 0 => least
  | n + 1 => (Backoff.mk (delay least most factor n) least most factor).next.2.current

variable {least most d e : Duration} {factor : Float} {calls : List BackoffCall}

/-- A call moves along the sequence by one, or back to its start. -/
theorem call_mk_delay (n : Nat) (c : BackoffCall) :
    (Backoff.mk (delay least most factor n) least most factor).call c =
      ⟨delay least most factor (match c with | .next => n + 1 | .reset => 0), least, most,
        factor⟩ := by
  cases c with
  | next => exact next_snd _
  | reset => rfl

/-- **The state after any calls** hangs on the number of delays since the last reset. -/
theorem after_new (calls : List BackoffCall) :
    (new least most factor).after calls =
      ⟨delay least most factor (BackoffCall.sinceReset calls), least, most, factor⟩ := by
  induction calls using List.reverseRecOn with
  | nil => rfl
  | append_singleton calls c ih =>
      simp only [after, BackoffCall.sinceReset, List.foldl_append, List.foldl_cons,
        List.foldl_nil] at ih ⊢
      rw [ih, call_mk_delay]

theorem sinceReset_append_reset (calls : List BackoffCall) :
    BackoffCall.sinceReset (calls ++ [.reset]) = 0 := by
  simp [BackoffCall.sinceReset]

theorem sinceReset_append_replicate (calls : List BackoffCall) (n : Nat) :
    BackoffCall.sinceReset (calls ++ List.replicate n .next) =
      BackoffCall.sinceReset calls + n := by
  induction n with
  | zero => simp
  | succ n ih =>
      rw [List.replicate_succ', ← List.append_assoc]
      simp only [BackoffCall.sinceReset, List.foldl_append, List.foldl_cons,
        List.foldl_nil] at ih ⊢
      rw [ih]
      rfl

theorem answer_eq_some_iff :
    (new least most factor).answer calls = some d ↔
      delay least most factor (BackoffCall.sinceReset calls) = d ∧
        ∃ e, d.scale? factor = some e := by
  unfold answer next?
  rw [after_new]
  simp only [Option.map_map, Option.map_eq_some_iff, Function.comp_apply]
  constructor
  · rintro ⟨e, he, rfl⟩
    exact ⟨rfl, e, he⟩
  · rintro ⟨rfl, e, he⟩
    exact ⟨e, he, rfl⟩

theorem answer_eq_none_iff :
    (new least most factor).answer calls = none ↔
      (delay least most factor (BackoffCall.sinceReset calls)).scale? factor = none := by
  unfold answer next?
  rw [after_new]
  simp

/-- The next delay where the product is a duration. -/
theorem delay_succ {n : Nat} (h : (delay least most factor n).scale? factor = some e) :
    delay least most factor (n + 1) = most.shorter e := by
  rw [delay, next, next?, h]
  rfl

/-- No delay is greater than the greatest. -/
theorem delay_le_most (hle : least.nanoseconds ≤ most.nanoseconds) (n : Nat) :
    (delay least most factor n).nanoseconds ≤ most.nanoseconds := by
  induction n with
  | zero => exact hle
  | succ n ih =>
      cases h : (delay least most factor n).scale? factor with
      | none =>
          rw [delay, next, next?, h]
          exact ih
      | some e =>
          rw [delay_succ h, Duration.nanoseconds_shorter]
          exact Nat.min_le_left _ _

/-! ## Rising and coming to rest -/

/-- A delay after which the same one follows: its product is a duration that is as long, or is cut
off to it. -/
def Settles (b : Backoff) (d : Duration) : Prop :=
  ∃ e, d.scale? b.multiplier = some e ∧ b.max.shorter e = d

section Growth

variable (hfinite : factor.isFinite = true) (hone : 1.0 ≤ factor)
include hfinite hone

/-- A delay that is no longer than one with a product has a product as well, and no longer one. -/
theorem exists_scale?_of_le {e' : Duration} (h : d.nanoseconds ≤ e.nanoseconds)
    (he : e.scale? factor = some e') :
    ∃ d', d.scale? factor = some d' ∧ d'.nanoseconds ≤ e'.nanoseconds := by
  cases hd : d.scale? factor with
  | none =>
      rw [Duration.scale?_eq_none_iff hfinite hone] at hd
      have hnone := (Duration.scale?_eq_none_iff hfinite hone e).mpr
        (hd.trans (Duration.value_product_mono factor h))
      rw [hnone] at he
      cases he
  | some d' =>
      refine ⟨d', rfl, ?_⟩
      rw [Duration.scale?_eq_some_iff hfinite hone] at hd he
      rw [hd, he]
      exact Duration.nanoseconds_product_mono factor h

/-- **Below a delay at which the sequence can rest it goes on**, and never beyond that delay. -/
theorem delay_le_of_settles (hd : (new least most factor).Settles d)
    (hle : least.nanoseconds ≤ d.nanoseconds) (n : Nat) :
    (delay least most factor n).nanoseconds ≤ d.nanoseconds := by
  obtain ⟨e, he, hrest⟩ := hd
  change most.shorter e = d at hrest
  have hsame := congrArg Duration.nanoseconds hrest
  rw [Duration.nanoseconds_shorter] at hsame
  induction n with
  | zero => exact hle
  | succ n ih =>
      obtain ⟨e', he', hle'⟩ := exists_scale?_of_le hfinite hone ih he
      rw [delay_succ he', Duration.nanoseconds_shorter]
      omega

theorem exists_scale?_delay (hd : (new least most factor).Settles d)
    (hle : least.nanoseconds ≤ d.nanoseconds) (n : Nat) :
    ∃ e, (delay least most factor n).scale? factor = some e := by
  have hbelow := delay_le_of_settles hfinite hone hd hle n
  obtain ⟨e, he, -⟩ := hd
  obtain ⟨e', he', -⟩ := exists_scale?_of_le hfinite hone hbelow he
  exact ⟨e', he'⟩

/-- **A sequence that does not fall at first never falls.** -/
theorem delay_le_succ (hd : (new least most factor).Settles d)
    (hle : least.nanoseconds ≤ d.nanoseconds) (hle' : least.nanoseconds ≤ most.nanoseconds)
    (hrise : ∃ e, least.scale? factor = some e ∧ least.nanoseconds ≤ e.nanoseconds) (n : Nat) :
    (delay least most factor n).nanoseconds ≤ (delay least most factor (n + 1)).nanoseconds := by
  induction n with
  | zero =>
      obtain ⟨e, he, hup⟩ := hrise
      have hfirst : delay least most factor 0 = least := rfl
      rw [delay_succ (hfirst ▸ he), Duration.nanoseconds_shorter, hfirst]
      omega
  | succ n ih =>
      obtain ⟨e, he⟩ := exists_scale?_delay hfinite hone hd hle (n + 1)
      obtain ⟨e', he', hless⟩ := exists_scale?_of_le hfinite hone ih he
      rw [delay_succ he, delay_succ he', Duration.nanoseconds_shorter,
        Duration.nanoseconds_shorter]
      omega

end Growth

/-- A sequence that never falls is nowhere below its start. -/
theorem least_le_delay
    (hrise : ∀ n, (delay least most factor n).nanoseconds ≤
      (delay least most factor (n + 1)).nanoseconds) (n : Nat) :
    least.nanoseconds ≤ (delay least most factor n).nanoseconds :=
  monotone_nat_of_le_succ hrise (Nat.zero_le n)

/-- **A sequence that never falls comes to rest**, because the greatest delay bounds it. -/
theorem exists_settles (hle : least.nanoseconds ≤ most.nanoseconds)
    (hall : ∀ n, ∃ e, (delay least most factor n).scale? factor = some e)
    (hrise : ∀ n, (delay least most factor n).nanoseconds ≤
      (delay least most factor (n + 1)).nanoseconds) :
    ∃ d, least.nanoseconds ≤ d.nanoseconds ∧ d.nanoseconds ≤ most.nanoseconds ∧
      (new least most factor).Settles d := by
  obtain ⟨n, hrest⟩ : ∃ n, delay least most factor (n + 1) = delay least most factor n := by
    by_contra hnever
    have hstrict : StrictMono fun n => (delay least most factor n).nanoseconds :=
      strictMono_nat_of_lt_succ fun n =>
        (hrise n).lt_of_ne fun hsame => hnever ⟨n, (Duration.eq_of_nanoseconds_eq hsame).symm⟩
    have hbeyond : most.nanoseconds + 1 ≤
        (delay least most factor (most.nanoseconds + 1)).nanoseconds := hstrict.le_apply
    exact absurd (delay_le_most hle _) (Nat.not_le.mpr hbeyond)
  obtain ⟨e, he⟩ := hall n
  refine ⟨delay least most factor n, least_le_delay hrise n, delay_le_most hle n, e, he, ?_⟩
  rw [← hrest, delay_succ he]
  rfl

theorem answer_replicate_eq_some_iff {n : Nat} :
    (new least most factor).answer (List.replicate n .next) = some d ↔
      delay least most factor n = d ∧ ∃ e, d.scale? factor = some e := by
  have hcount : BackoffCall.sinceReset (List.replicate n .next) = n := by
    simpa [BackoffCall.sinceReset] using sinceReset_append_replicate [] n
  rw [answer_eq_some_iff, hcount]

/-- The delays as expected, seen on the sequence. -/
theorem orderly_of_delays (hle : least.nanoseconds ≤ most.nanoseconds)
    (hall : ∀ n, ∃ e, (delay least most factor n).scale? factor = some e)
    (hrise : ∀ n, (delay least most factor n).nanoseconds ≤
      (delay least most factor (n + 1)).nanoseconds) :
    (new least most factor).Orderly where
  answers calls hnone := by
    obtain ⟨e, he⟩ := hall (BackoffCall.sinceReset calls)
    rw [answer_eq_none_iff, he] at hnone
    cases hnone
  within calls d hd := by
    rw [answer_eq_some_iff] at hd
    rw [← hd.1]
    exact ⟨least_le_delay hrise _, delay_le_most hle _⟩
  first := answer_eq_some_iff.mpr ⟨rfl, hall 0⟩
  restarts calls := by
    rw [answer_eq_some_iff, sinceReset_append_reset]
    exact ⟨rfl, hall 0⟩
  grows calls n d e hd he := by
    rw [answer_eq_some_iff] at hd he
    rw [← hd.1, ← he.1, sinceReset_append_replicate]
    exact monotone_nat_of_le_succ hrise (Nat.le_add_right _ _)

/-- What delays as expected say about the sequence. -/
theorem Orderly.delays (h : (new least most factor).Orderly) (n : Nat) :
    (∃ e, (delay least most factor n).scale? factor = some e) ∧
      (delay least most factor n).nanoseconds ≤ (delay least most factor (n + 1)).nanoseconds := by
  have hanswer : ∀ k, (new least most factor).answer (List.replicate k .next) =
      some (delay least most factor k) := by
    intro k
    obtain ⟨d, hd⟩ := Option.ne_none_iff_exists'.mp (h.answers (List.replicate k .next))
    rw [hd, (answer_replicate_eq_some_iff.mp hd).1]
  refine ⟨(answer_replicate_eq_some_iff.mp (hanswer n)).2, ?_⟩
  refine h.grows (List.replicate n .next) 0 _ _ (hanswer n) ?_
  rw [List.replicate_append_replicate]
  exact hanswer (n + 1)

/-! ## The delays -/

/-- **What holds of every backoff**: a call fails exactly where the delay times the factor, in
double precision, is `2 ^ 64` seconds or more; no delay is greater than the greatest; and the first
one, at first and after a reset, is the least one. -/
structure Restrained (b : Backoff) : Prop where
  fails_iff : ∀ calls, b.answer calls = none ↔
    2 ^ 64 ≤ ((b.after calls).current.product b.multiplier).value
  below : ∀ calls d, b.answer calls = some d → d.nanoseconds ≤ b.max.nanoseconds
  first : ∀ d, b.answer [] = some d → d = b.min
  restarts : ∀ calls d, b.answer (calls ++ [.reset]) = some d → d = b.min

theorem restrained (hle : least.nanoseconds ≤ most.nanoseconds)
    (hfinite : factor.isFinite = true) (hone : 1.0 ≤ factor) :
    (new least most factor).Restrained where
  fails_iff calls := by
    rw [answer_eq_none_iff, Duration.scale?_eq_none_iff hfinite hone, after_new]
    rfl
  below calls d hd := by
    rw [answer_eq_some_iff] at hd
    rw [← hd.1]
    exact delay_le_most hle _
  first d hd := (answer_eq_some_iff.mp hd).1.symm
  restarts calls d hd := by
    rw [answer_eq_some_iff, sinceReset_append_reset] at hd
    exact hd.1.symm

section Growth

variable (hle : least.nanoseconds ≤ most.nanoseconds) (hfinite : factor.isFinite = true)
  (hone : 1.0 ≤ factor)
include hle hfinite hone

/-- **Two products decide**: that of the least delay, which says whether the sequence falls at
first, and that of a delay at which it comes to rest. -/
theorem orderly_iff_exists_settles :
    (new least most factor).Orderly ↔
      (∃ e, least.scale? factor = some e ∧ least.nanoseconds ≤ e.nanoseconds) ∧
        ∃ d, least.nanoseconds ≤ d.nanoseconds ∧ d.nanoseconds ≤ most.nanoseconds ∧
          (new least most factor).Settles d := by
  constructor
  · intro h
    obtain ⟨⟨e, he⟩, hup⟩ := h.delays 0
    rw [delay_succ he, Duration.nanoseconds_shorter] at hup
    exact ⟨⟨e, he, hup.trans (Nat.min_le_right _ _)⟩,
      exists_settles hle (fun n => (h.delays n).1) fun n => (h.delays n).2⟩
  · rintro ⟨hrise, d, hlow, -, hd⟩
    exact orderly_of_delays hle (exists_scale?_delay hfinite hone hd hlow)
      (delay_le_succ hfinite hone hd hlow hle hrise)

/-- The greatest delay is one at which a sequence rests, if its product is a duration. -/
theorem orderly_of_product_lt (hbelow : (most.product factor).value < 2 ^ 64)
    (hgrows : 1.0 < factor ∨ most.nanoseconds < 2 ^ 23 * nanosPerSecond) :
    (new least most factor).Orderly := by
  have hlonger : ∀ d e : Duration, d.nanoseconds ≤ most.nanoseconds →
      d.scale? factor = some e → d.nanoseconds ≤ e.nanoseconds := by
    intro d e hd he
    rw [(Duration.scale?_eq_some_iff hfinite hone).mp he]
    exact Duration.le_nanoseconds_product hfinite hone (hgrows.imp id hd.trans_lt)
  obtain ⟨e, he⟩ : ∃ e, most.scale? factor = some e := by
    refine Option.ne_none_iff_exists'.mp fun hnone => ?_
    rw [Duration.scale?_eq_none_iff hfinite hone] at hnone
    exact absurd hnone (not_le.mpr hbelow)
  obtain ⟨e', he', -⟩ := exists_scale?_of_le hfinite hone hle he
  rw [orderly_iff_exists_settles hle hfinite hone]
  refine ⟨⟨e', he', hlonger _ _ hle he'⟩, most, hle, le_rfl, e, he, ?_⟩
  exact if_pos (hlonger _ _ le_rfl he)

end Growth

/-- A twofold backoff of short delays. -/
theorem orderly_of_two (hle : least.nanoseconds ≤ most.nanoseconds)
    (hshort : most.nanoseconds < 2 ^ 22 * nanosPerSecond) : (new least most 2.0).Orderly := by
  refine orderly_of_product_lt hle Duration.isFinite_two Duration.one_le_twofold ?_
    (.inl Duration.one_lt_twofold)
  obtain ⟨e, he, -⟩ := Duration.scale?_two hshort
  rw [← not_le, ← Duration.scale?_eq_none_iff Duration.isFinite_two Duration.one_le_twofold, he]
  exact Option.some_ne_none e

/-- **When the delays are as expected**: exactly when the product of the least delay is a duration
and no shorter, and there is a delay from the least to the greatest, with a product that is a
duration, at which the sequence can come to rest. This is so where the product of the greatest delay
is below `2 ^ 64` seconds and the factor is greater than one or the greatest delay below `2 ^ 23`
seconds. In every case the delays are restrained. -/
theorem orderly_iff (hle : least.nanoseconds ≤ most.nanoseconds)
    (hfinite : factor.isFinite = true) (hone : 1.0 ≤ factor) :
    ((new least most factor).Orderly ↔
      (∃ e, least.scale? factor = some e ∧ least.nanoseconds ≤ e.nanoseconds) ∧
        ∃ d, least.nanoseconds ≤ d.nanoseconds ∧ d.nanoseconds ≤ most.nanoseconds ∧
          (new least most factor).Settles d) ∧
      ((most.product factor).value < 2 ^ 64 →
        1.0 < factor ∨ most.nanoseconds < 2 ^ 23 * nanosPerSecond →
        (new least most factor).Orderly) ∧
      (new least most factor).Restrained :=
  ⟨orderly_iff_exists_settles hle hfinite hone, orderly_of_product_lt hle hfinite hone,
    restrained hle hfinite hone⟩

/-- The delays from a quarter of a second to a second, each twice the one before. -/
theorem orderly_twofold :
    (Duration.ofMillis 250).nanoseconds ≤ (Duration.ofSeconds 1).nanoseconds ∧
      (2.0 : Float).isFinite = true ∧ (1.0 : Float) ≤ 2.0 ∧
      (new (.ofMillis 250) (.ofSeconds 1) 2.0).Orderly := by
  have hle : (Duration.ofMillis 250).nanoseconds ≤ (Duration.ofSeconds 1).nanoseconds := by
    decide +kernel
  have hfinite := Duration.isFinite_two
  have hone := Duration.one_le_twofold
  have hproduct : ((Duration.ofSeconds 1).product 2.0).value < 2 ^ 64 := by
    rw [← not_le, ← Duration.scale?_eq_none_iff hfinite hone]
    decide +kernel
  exact ⟨hle, hfinite, hone,
    (orderly_iff hle hfinite hone).2.1 hproduct (.inl Duration.one_lt_twofold)⟩

/-- **A delay that is spoiled**: from one second to thirty, with a factor of `10 ^ 30`, the very
first call fails, because the delay after it would be too long before it is cut off. -/
theorem first_delay_spoiled :
    (Duration.ofSeconds 1).nanoseconds ≤ (Duration.ofSeconds 30).nanoseconds ∧
      (1e30 : Float).isFinite = true ∧ (1.0 : Float) ≤ 1e30 ∧
      (new (.ofSeconds 1) (.ofSeconds 30) 1e30).answer [] = none ∧
      ¬ (new (.ofSeconds 1) (.ofSeconds 30) 1e30).Orderly := by
  have hspoiled : (new (.ofSeconds 1) (.ofSeconds 30) 1e30).answer [] = none := by
    rw [answer_eq_none_iff]
    decide +kernel
  exact ⟨by decide +kernel, by decide +kernel, by decide +kernel, hspoiled,
    fun h => h.answers [] hspoiled⟩

/-- A factor of one can make a long delay shorter, and so less than the least one. -/
example : (new ⟨134217728000000001, by decide⟩ ⟨134217728000000001, by decide⟩ 1.0).next.2.current =
    ⟨134217728000000000, by decide⟩ := by decide +kernel

end Backoff

end GroundStation
