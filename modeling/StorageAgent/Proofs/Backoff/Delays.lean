import Mathlib.Algebra.Order.Archimedean.Basic
import StorageAgent.Proofs.Backoff.Surfaced
import StorageAgent.Proofs.Seconds

/-!
# How long a delay is

The delay after attempt `n` is nominally `initial * base ^ n`, but at most the cap, and jitter moves
it by a part of itself. In exact seconds that is what a delay comes to, as long as the settings are
regular and chance answers with numbers from 0 up to 1.

* `Regular.nominal_mono`, `Regular.exists_capped`: nominal delays never decrease, and if they grow at
  all they come to the cap and stay there.
* `Regular.abs_jittered_sub_le`: jitter moves a delay by at most `jitterFactor` of itself.
* `delay_bounded`: so every delay can be computed, is not negative, and fits its nominal delay.
* `retry_sleeps_fit`: the sleeps of a retried call, however it goes, are such delays in a row.
-/
namespace StorageAgent

/-- Chance answered with numbers from 0 up to 1. -/
def Host.DrawsFractions {ε : Type} (event : Host.Event ℚ → ε) (t : List ε) : Prop :=
  ∀ u, event (.drew u) ∈ t → u ∈ Set.Ico 0 1

namespace Backoff

open Behaviour
open Host (DrawsFractions)

/-- Settings as they are meant: no time is negative, delays do not shrink from one attempt to the
next, and jitter moves a delay by no more than the delay itself. -/
structure Regular (b : Backoff ℚ) : Prop where
  initial_nonneg : 0 ≤ b.initial
  one_le_base : 1 ≤ b.base
  cap_nonneg : 0 ≤ b.cap
  jitterFactor_nonneg : 0 ≤ b.jitterFactor
  jitterFactor_le_one : b.jitterFactor ≤ 1

theorem standard_regular : (standard (τ := ℚ)).Regular where
  initial_nonneg := by decide +kernel
  one_le_base := by decide +kernel
  cap_nonneg := by decide +kernel
  jitterFactor_nonneg := by decide +kernel
  jitterFactor_le_one := by decide +kernel

/-- The delay after attempt `n`, if chance did not move it. -/
def nominal (b : Backoff ℚ) (n : Int) : ℚ := min (b.initial * b.base ^ n) b.cap

/-- A delay fits attempt `n`: it is not negative, it is off the nominal delay by no more than jitter
may move that, and without jitter it is the nominal delay. -/
structure Fits (b : Backoff ℚ) (n : Int) (d : ℚ) : Prop where
  nonneg : 0 ≤ d
  near : |d - b.nominal n| ≤ b.jitterFactor * b.nominal n
  steady : b.jitter = false → d = b.nominal n

/-- What a delay asks of chance, if `u` is the answer: nothing without jitter. -/
def asked {ε τ : Type} (event : Host.Event τ → ε) (b : Backoff τ) (u : τ) : List ε :=
  if b.jitter then [event (.drew u)] else []

/-! ## Nominal delays -/

section
variable {b : Backoff ℚ} (hb : b.Regular)
include hb

theorem Regular.base_pos : 0 < b.base := zero_lt_one.trans_le hb.one_le_base

theorem Regular.plainDelay_eq (n : Int) : b.plainDelay n = .ok (b.nominal n) :=
  Backoff.plainDelay_eq hb.base_pos.ne' n

theorem Regular.nominal_nonneg (n : Int) : 0 ≤ b.nominal n := by
  have hpower : 0 ≤ b.base ^ n := (zpow_pos hb.base_pos n).le
  exact le_min (mul_nonneg hb.initial_nonneg hpower) hb.cap_nonneg

theorem Regular.nominal_mono {m n : Int} (hmn : m ≤ n) : b.nominal m ≤ b.nominal n := by
  have hpower : b.base ^ m ≤ b.base ^ n := zpow_le_zpow_right₀ hb.one_le_base hmn
  exact min_le_min_right b.cap (mul_le_mul_of_nonneg_left hpower hb.initial_nonneg)

/-- Delays that grow come to the cap, and stay there. -/
theorem Regular.exists_capped (hinitial : 0 < b.initial) (hbase : 1 < b.base) :
    ∃ N : Nat, ∀ n : Int, N ≤ n → b.nominal n = b.cap := by
  obtain ⟨N, hN⟩ := pow_unbounded_of_one_lt (b.cap / b.initial) hbase
  have hreached : b.nominal N = b.cap := by
    refine min_eq_right ?_
    rw [zpow_natCast]
    exact ((div_lt_iff₀' hinitial).1 hN).le
  -- what has come to the cap cannot decrease any more
  refine ⟨N, fun n hn => le_antisymm (min_le_right _ _) ?_⟩
  rw [← hreached]
  exact hb.nominal_mono hn

/-! ## Jitter -/

variable {d u : ℚ}

theorem Regular.abs_jittered_sub_le (hd : 0 ≤ d) (hu : u ∈ Set.Ico 0 1) :
    |b.jittered d u - d| ≤ b.jitterFactor * d := by
  have hpart : 0 ≤ b.jitterFactor * d := mul_nonneg hb.jitterFactor_nonneg hd
  have hunit : |2 * u - 1| ≤ 1 := abs_le.2 ⟨by linarith [hu.1], by linarith [hu.2]⟩
  calc |b.jittered d u - d| = b.jitterFactor * d * |2 * u - 1| := by
        rw [jittered_eq, add_sub_cancel_left, abs_mul, abs_of_nonneg hpart]
    _ ≤ b.jitterFactor * d := mul_le_of_le_one_right hpart hunit

theorem Regular.jittered_nonneg (hd : 0 ≤ d) (hu : u ∈ Set.Ico 0 1) : 0 ≤ b.jittered d u := by
  have hpart : b.jitterFactor * d ≤ d := mul_le_of_le_one_left hd hb.jitterFactor_le_one
  have hnear := (abs_le.1 (hb.abs_jittered_sub_le hd hu)).1
  linarith

/-! ## Delays fit -/

variable {n : Int}

theorem Regular.fits_steady : b.Fits n (Seconds.atLeastZero (b.nominal n)) := by
  have hd := hb.nominal_nonneg n
  rw [Seconds.atLeastZero_of_nonneg hd]
  refine ⟨hd, ?_, fun _ => rfl⟩
  rw [sub_self, abs_zero]
  exact mul_nonneg hb.jitterFactor_nonneg hd

theorem Regular.fits_moved (hj : b.jitter = true) (hu : u ∈ Set.Ico 0 1) :
    b.Fits n (Seconds.atLeastZero (b.jittered (b.nominal n) u)) := by
  have hd := hb.nominal_nonneg n
  have hmoved := hb.jittered_nonneg hd hu
  rw [Seconds.atLeastZero_of_nonneg hmoved]
  refine ⟨hmoved, hb.abs_jittered_sub_le hd hu, fun hsteady => ?_⟩
  rw [hj] at hsteady
  cases hsteady

variable {ε : Type} {event : Host.Event ℚ → ε} {t : List ε}

theorem Regular.delay_fits {r : Except Failure ℚ} (h : Run (b.delay (.free event) n) t r)
    (hdraws : DrawsFractions event t) : ∃ d, r = .ok d ∧ b.Fits n d := by
  obtain ⟨kind, hk, -⟩ | ⟨d, hd, hdelay⟩ := delay_iff.1 h
  · rw [hb.plainDelay_eq] at hk
    cases hk
  · rw [hb.plainDelay_eq] at hd
    cases hd
    obtain ⟨-, -, rfl⟩ | ⟨hj, u, rfl, rfl⟩ := hdelay
    · exact ⟨_, rfl, hb.fits_steady⟩
    · exact ⟨_, rfl, hb.fits_moved hj (hdraws u (List.mem_singleton_self _))⟩

/-- Whatever chance answers, there is a delay. -/
theorem Regular.exists_delay (event : Host.Event ℚ → ε) (n : Int) (u : ℚ) :
    ∃ d, Run (b.delay (.free event) n) (asked event b u) (.ok d) := by
  cases hj : b.jitter with
  | false =>
    refine ⟨_, delay_iff.2 (.inr ⟨_, hb.plainDelay_eq n, .inl ⟨hj, ?_, rfl⟩⟩)⟩
    simp [asked, hj]
  | true =>
    refine ⟨_, delay_iff.2 (.inr ⟨_, hb.plainDelay_eq n, .inr ⟨hj, u, ?_, rfl⟩⟩)⟩
    simp [asked, hj]

end

/-- Whatever chance answers, a delay is computed. It is not negative and fits its nominal delay; and
nominal delays never decrease and come to the cap for good, if they start above zero and grow. -/
theorem delay_bounded {ε : Type} {b : Backoff ℚ} (hb : b.Regular) (event : Host.Event ℚ → ε) :
    (∀ (n : Int) (u : ℚ), ∃ d, Run (b.delay (.free event) n) (asked event b u) (.ok d)) ∧
      (∀ (n : Int) t r, Run (b.delay (.free event) n) t r → DrawsFractions event t →
        ∃ d, r = .ok d ∧ b.Fits n d) ∧
      (∀ m n : Int, m ≤ n → b.nominal m ≤ b.nominal n) ∧
      (0 < b.initial → 1 < b.base → ∃ N : Nat, ∀ n : Int, N ≤ n → b.nominal n = b.cap) := by
  refine ⟨hb.exists_delay event, ?_, ?_, hb.exists_capped⟩
  · intro n t r h hdraws
    exact hb.delay_fits h hdraws
  · intro m n hmn
    exact hb.nominal_mono hmn

/-- With the standard settings the delay after attempt 4 is eight seconds. After attempt 5 it is the
ten seconds of the cap, and jitter makes that half a second more if chance answers with three
quarters. -/
theorem delay_bounded_standard : (standard (τ := ℚ)).Regular ∧
    Run ((standard (τ := ℚ)).delay (.free id) 5) [.drew (3 / 4)] (.ok (21 / 2)) ∧
    DrawsFractions id [.drew (3 / 4)] ∧ (standard (τ := ℚ)).Fits 5 (21 / 2) ∧
    (standard (τ := ℚ)).nominal 4 = 8 ∧ (standard (τ := ℚ)).nominal 5 = 10 ∧
    (standard (τ := ℚ)).nominal 4 ≤ (standard (τ := ℚ)).nominal 5 ∧
    0 < (standard (τ := ℚ)).initial ∧ 1 < (standard (τ := ℚ)).base ∧
    ∃ N : Nat, ∀ n : Int, N ≤ n → (standard (τ := ℚ)).nominal n = (standard (τ := ℚ)).cap := by
  have hinitial : 0 < (standard (τ := ℚ)).initial := by decide +kernel
  have hbase : 1 < (standard (τ := ℚ)).base := by decide +kernel
  have hmoved : 21 / 2 = Seconds.atLeastZero
      (standard.jittered ((standard (τ := ℚ)).nominal 5) (3 / 4)) := by decide +kernel
  have hrun : Run ((standard (τ := ℚ)).delay (.free id) 5) [.drew (3 / 4)] (.ok (21 / 2)) :=
    delay_iff.2 (.inr ⟨_, standard_regular.plainDelay_eq 5,
      .inr ⟨rfl, 3 / 4, rfl, congrArg Except.ok hmoved⟩⟩)
  have hdraws : DrawsFractions id [.drew (3 / 4)] := by
    intro u hu
    cases List.mem_singleton.1 hu
    norm_num
  obtain ⟨-, hfits, hmono, hcapped⟩ := delay_bounded standard_regular (id : Host.Event ℚ → _)
  obtain ⟨d, hd, hfit⟩ := hfits 5 _ _ hrun hdraws
  cases hd
  exact ⟨standard_regular, hrun, hdraws, hfit, by decide +kernel, by decide +kernel,
    hmono 4 5 (by decide), hinitial, hbase, hcapped hinitial hbase⟩

/-! ## The sleeps of a retried call -/

section
variable {α : Type} {b : Backoff ℚ} {description : String} {left n : Nat}
  {tries : List (Try (Event ℚ α) α)} {t : List (Event ℚ α)} {r : Except Failure α}

theorem Paused.sleeps_fit (hb : b.Regular) {fault : TransportFault}
    (h : Paused .host b description n fault t) (hdraws : DrawsFractions .host t) :
    ∃ d, sleeps t = [d] ∧ b.Fits n d := by
  cases h with
  | steady hd =>
    rw [hb.plainDelay_eq] at hd
    cases hd
    exact ⟨_, rfl, hb.fits_steady⟩
  | moved u hd hj =>
    rw [hb.plainDelay_eq] at hd
    cases hd
    exact ⟨_, rfl, hb.fits_moved hj (hdraws u List.mem_cons_self)⟩

theorem Tried.sleeps_fit (hb : b.Regular)
    (h : Tried .host b description anything left n tries t r) (hdraws : DrawsFractions .host t) :
    ∀ (k : Nat) d, (sleeps t)[k]? = some d → b.Fits (n + k : Nat) d := by
  induction h with
  | untried =>
    intro k d hk
    cases hk
  | ended hop =>
    obtain rfl := anything_iff.1 hop
    intro k d hk
    cases hk
  | undelayed hop =>
    obtain rfl := anything_iff.1 hop
    intro k d hk
    cases hk
  | @again _ n _ _ t₂ t₃ _ _ hop _ hpause _ ih =>
    obtain rfl := anything_iff.1 hop
    have hbetween : DrawsFractions .host t₂ := fun u hu => hdraws u (by simp [hu])
    have hlater : DrawsFractions .host t₃ := fun u hu => hdraws u (by simp [hu])
    obtain ⟨d₀, hsleep, hfit⟩ := hpause.sleeps_fit hb hbetween
    intro k d hk
    rw [sleeps_append, sleeps_append, hsleep] at hk
    -- the sleep of this pause comes first, and the others belong to the later tries
    cases k with
    | zero =>
      cases hk
      exact hfit
    | succ k =>
      have hshift : n + (k + 1) = n + 1 + k := by omega
      rw [hshift]
      exact ih hlater k d hk

/-- However a retried call goes, its sleep with number `k` fits attempt `k`. -/
theorem retry_sleeps_fit (hb : b.Regular)
    (hrun : Run (b.retry (.free .host) description anything) t r)
    (hdraws : DrawsFractions .host t) {k : Nat} {d : ℚ} (hk : (sleeps t)[k]? = some d) :
    b.Fits k d := by
  obtain ⟨tries, htries⟩ := attempts_iff.1 hrun
  have hfit := htries.sleeps_fit hb hdraws k d hk
  rwa [Nat.zero_add] at hfit

end

end Backoff
end StorageAgent
