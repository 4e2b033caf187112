import Mathlib.Data.Rat.Floor
import Mathlib.Tactic.NormNum
import StorageAgent.Backoff

/-!
# The arithmetic of waiting

Over the rationals nothing is rounded and nothing overflows, so runs with given
times can be computed step by step. In doubles the power of two has to be a double
of its own, whatever the cap, since the cap is put on a delay afterwards.

* `plainDelay_isOk_iff`: the delay after attempt `n` can be computed exactly if `2 ^ n` is a double.
-/
namespace StorageAgent

/-! ## Exact seconds -/

/-- A fraction with `places` decimal places, a half going to the even neighbour. -/
def Decimal.fixedRat (places : Nat) (q : ℚ) : String :=
  let body := fixedDigits places (roundDiv (q.num.natAbs * tenPow places) q.den)
  String.ofList (if q < 0 then '-' :: body else body)

instance : Seconds ℚ where
  ofRatio num den := num / den
  add a b := a + b
  sub a b := a - b
  mul a b := a * b
  neg a := -a
  lt a b := decide (a < b)
  le a b := decide (a ≤ b)
  power b n := if b = 0 ∧ n < 0 then .error .zeroDivision else .ok (b ^ n)
  fixed := Decimal.fixedRat
  steps length step := if step ≤ 0 then 0 else ⌈length / step⌉.toNat

theorem Seconds.least_eq_min (a b : ℚ) : Seconds.least a b = min a b := by
  have hlt : (Seconds.lt b a = true) = (b < a) := decide_eq_true_eq
  unfold Seconds.least
  simp only [hlt]
  rcases lt_or_ge b a with h | h
  · rw [if_pos h, min_eq_right h.le]
  · rw [if_neg h.not_gt, min_eq_left h]

theorem Seconds.least_le_left (a b : ℚ) : Seconds.least a b ≤ a :=
  (least_eq_min a b).trans_le (min_le_left a b)

theorem Seconds.zero_eq : (Seconds.zero : ℚ) = 0 := by simp [Seconds.zero, Seconds.ofRatio]

theorem Seconds.atLeastZero_of_nonneg {a : ℚ} (h : 0 ≤ a) : Seconds.atLeastZero a = a := by
  refine if_neg fun hlt => ?_
  have hless : a < Seconds.zero := of_decide_eq_true hlt
  rw [zero_eq] at hless
  exact absurd h hless.not_ge

theorem Backoff.plainDelay_eq {b : Backoff ℚ} (hb : b.base ≠ 0) (n : Int) :
    b.plainDelay n = .ok (min (b.initial * b.base ^ n) b.cap) := by
  have hp : Seconds.power b.base n = .ok (b.base ^ n) := if_neg fun h => hb h.1
  rw [plainDelay, hp]
  exact congrArg Except.ok (Seconds.least_eq_min _ _)

/-- A delay of exact seconds can be computed after any number of attempts. -/
theorem Backoff.plainDelay_ok {b : Backoff ℚ} (hb : b.base ≠ 0) (n : Int) :
    ∃ d, b.plainDelay n = .ok d := ⟨_, plainDelay_eq hb n⟩

theorem Backoff.jittered_eq (b : Backoff ℚ) (d u : ℚ) :
    b.jittered d u = d + b.jitterFactor * d * (2 * u - 1) := by
  change d + (-(d * b.jitterFactor) + (d * b.jitterFactor - -(d * b.jitterFactor)) * u) = _
  ring

/-! ## Delays in doubles -/

namespace Decimal

theorem exponent?_two : exponent? (Seconds.ofRatio 2 1) = some 1 := by decide +kernel

theorem powerOfTwo_isOk_iff {n : Int} : (∃ p, powerOfTwo n = .ok p) ↔ n < 1024 := by
  unfold powerOfTwo
  by_cases hlarge : 1024 ≤ n
  · simp [hlarge]
  · by_cases hsmall : n < -1074
    · simp [hlarge, hsmall]
      omega
    · simp [hlarge, hsmall]
      omega

theorem powerOfTwo_overflow {n : Int} (h : 1024 ≤ n) : powerOfTwo n = .error .overflow := by
  unfold powerOfTwo
  exact if_pos h

theorem power_two {n : Nat} (h : n < doubleLimit) :
    power (Seconds.ofRatio 2 1) n = powerOfTwo n := by
  have hn : ¬ doubleLimit ≤ (n : Int).natAbs := by simpa using h
  unfold power
  rw [if_neg hn, exponent?_two]
  simp

theorem power_two_overflow {n : Nat} (h : 1024 ≤ n) :
    power (Seconds.ofRatio 2 1) n = .error .overflow := by
  by_cases hn : n < doubleLimit
  · rw [power_two hn]
    exact powerOfTwo_overflow (by omega)
  · have hlarge : doubleLimit ≤ (n : Int).natAbs := by simpa using hn
    unfold power
    exact if_pos hlarge

end Decimal

namespace Backoff

variable {b : Backoff Float} {n : Nat}

theorem plainDelay_overflow (hb : b.base = Seconds.ofRatio 2 1) (h : 1024 ≤ n) :
    b.plainDelay n = .error .overflow := by
  have hp : Seconds.power b.base n = .error .overflow := by
    rw [hb]
    exact Decimal.power_two_overflow h
  unfold plainDelay
  rw [hp]
  rfl

theorem plainDelay_isOk_iff (hb : b.base = Seconds.ofRatio 2 1) :
    (∃ d, b.plainDelay n = .ok d) ↔ n < 1024 := by
  by_cases h : n < 1024
  · have hlimit : 1024 ≤ doubleLimit := by decide +kernel
    have hp : Seconds.power b.base n = Decimal.powerOfTwo n := by
      rw [hb]
      exact Decimal.power_two (by omega)
    obtain ⟨p, hok⟩ := Decimal.powerOfTwo_isOk_iff.2 (show (n : Int) < 1024 by omega)
    refine iff_of_true ?_ h
    unfold plainDelay
    rw [hp, hok]
    exact ⟨_, rfl⟩
  · rw [plainDelay_overflow hb (by omega)]
    simpa using h

end Backoff

end StorageAgent
