import Mathlib.Algebra.Group.Nat.Defs
import StorageAgent.Bytes

/-!
# Words and padding

The two shapes of a fixed layout and their inverses.

* `toNatLE_ofNatLE`, `ofNatLE_toNatLE`: a word and its bytes tell the same, as far as the word fits.
* `StripsZeros`: what a byte string is without the zeros at its end. `stripsZeros_iff` says that
  there is one such string, the one that `trimRight` gives.
* `padRight_trimRight`, `trimRight_padRight`: padding and trimming undo each other up to those
  zeros.
* `precedes_iff_lt`: the order of a dictionary is the order of lists.
-/
namespace StorageAgent.Bytes

/-! ## Words -/

theorem ofNat_eq {x : UInt8} {n : Nat} (h : x.toNat = n) : UInt8.ofNat n = x := by
  rw [← h, UInt8.ofNat_toNat]

theorem toNatLE_lt (b : Bytes) : toNatLE b < 256 ^ b.length := by
  induction b with
  | nil => simp [toNatLE]
  | cons x rest ih =>
    have hx := x.toNat_lt
    simp only [toNatLE, List.length_cons, Nat.pow_succ]
    omega

theorem toNatLE_ofNatLE (width n : Nat) (h : n < 256 ^ width) : toNatLE (ofNatLE width n) = n := by
  induction width generalizing n with
  | zero => simp only [Nat.pow_zero] at h; simp only [ofNatLE, toNatLE]; omega
  | succ width ih =>
    have hrest : n / 256 < 256 ^ width := by
      rw [Nat.pow_succ] at h
      exact Nat.div_lt_of_lt_mul (by omega)
    have hfirst : (UInt8.ofNat (n % 256)).toNat = n % 256 := by
      rw [UInt8.toNat_ofNat']; omega
    simp only [ofNatLE, toNatLE, ih _ hrest, hfirst]
    omega

theorem ofNatLE_toNatLE (b : Bytes) : ofNatLE b.length (toNatLE b) = b := by
  induction b with
  | nil => rfl
  | cons x rest ih =>
    have hx := x.toNat_lt
    have hlow : (x.toNat + 256 * toNatLE rest) % 256 = x.toNat := by omega
    have hhigh : (x.toNat + 256 * toNatLE rest) / 256 = toNatLE rest := by omega
    simp only [List.length_cons, toNatLE, ofNatLE, hlow, hhigh, ih, UInt8.ofNat_toNat]

/-! ## Order -/

theorem precedes_iff_lt {a b : Bytes} : precedes a b = true ↔ a < b := by
  induction a generalizing b with
  | nil => cases b <;> simp [precedes]
  | cons x a ih =>
    cases b with
    | nil => simp [precedes]
    | cons y b =>
      rw [precedes, List.cons_lt_cons_iff]
      by_cases hlt : x < y
      · simp [hlt]
      · by_cases heq : x = y
        · subst heq
          simp [ih]
        · have hgt : y < x := by grind
          simp [hlt, heq, hgt]

/-! ## Padding -/

/-- `kept` is `bytes` without the zeros at its end, and without any other byte of it missing. -/
def StripsZeros (bytes kept : Bytes) : Prop :=
  (∃ count, bytes = kept ++ List.replicate count 0) ∧ kept.getLast? ≠ some 0

theorem trimRight_cons (x : UInt8) (rest : Bytes) :
    trimRight (x :: rest) = if x = 0 ∧ trimRight rest = [] then [] else x :: trimRight rest := by
  rw [trimRight]
  cases h : trimRight rest with
  | nil => by_cases hx : x = 0 <;> simp [hx]
  | cons y kept => simp

theorem trimRight_zeros (count : Nat) : trimRight (List.replicate count 0) = [] := by
  induction count with
  | zero => rfl
  | succ count ih => rw [List.replicate_succ, trimRight_cons, if_pos ⟨rfl, ih⟩]

theorem trimRight_append_zeros (b : Bytes) (count : Nat) :
    trimRight (b ++ List.replicate count 0) = trimRight b := by
  induction b with
  | nil => exact trimRight_zeros count
  | cons x rest ih => rw [List.cons_append, trimRight_cons, trimRight_cons, ih]

theorem trimRight_of_getLast? (b : Bytes) (h : b.getLast? ≠ some 0) : trimRight b = b := by
  induction b with
  | nil => rfl
  | cons x rest ih =>
    cases rest with
    | nil =>
      have hx : x ≠ 0 := by simpa using h
      rw [trimRight_cons, if_neg fun hz => hx hz.1, trimRight]
    | cons y rest =>
      rw [List.getLast?_cons_cons] at h
      rw [trimRight_cons, ih h, if_neg (by simp)]

theorem trimRight_stripsZeros (b : Bytes) : StripsZeros b (trimRight b) := by
  induction b with
  | nil => exact ⟨⟨0, rfl⟩, by simp [trimRight]⟩
  | cons x rest ih =>
    obtain ⟨⟨count, hcount⟩, hlast⟩ := ih
    rw [trimRight_cons]
    split
    · next hz =>
      rw [hz.2, List.nil_append] at hcount
      exact ⟨⟨count + 1, by rw [hz.1, hcount]; rfl⟩, by simp⟩
    · next hz =>
      refine ⟨⟨count, by rw [List.cons_append, ← hcount]⟩, ?_⟩
      cases h : trimRight rest with
      | nil =>
        intro he
        exact hz ⟨by simpa using he, h⟩
      | cons y kept =>
        rw [List.getLast?_cons_cons, ← h]
        exact hlast

/-- There is one way to leave the zeros at the end off. -/
theorem stripsZeros_iff {bytes kept : Bytes} : StripsZeros bytes kept ↔ kept = trimRight bytes := by
  constructor
  · rintro ⟨⟨count, rfl⟩, hlast⟩
    rw [trimRight_append_zeros, trimRight_of_getLast? kept hlast]
  · rintro rfl
    exact trimRight_stripsZeros bytes

theorem trimRight_padRight (size : Nat) (b : Bytes) : trimRight (padRight size b) = trimRight b :=
  trimRight_append_zeros b _

/-- What is trimmed off a field comes back when the field is filled again. -/
theorem padRight_trimRight (b : Bytes) : padRight b.length (trimRight b) = b := by
  obtain ⟨⟨count, hcount⟩, -⟩ := trimRight_stripsZeros b
  have hlength : b.length - (trimRight b).length = count := by
    have := congrArg List.length hcount
    simp only [List.length_append, List.length_replicate] at this
    omega
  rw [padRight, hlength, ← hcount]

end StorageAgent.Bytes
