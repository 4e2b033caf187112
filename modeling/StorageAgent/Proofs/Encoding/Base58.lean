import Mathlib.Data.List.GetD
import Mathlib.Data.List.TakeWhile
import Mathlib.Data.Nat.Digits.Lemmas
import StorageAgent.Address

/-!
# Base58 as two numerals of one number

The bytes are a numeral in base 256, the text is one in base 58. Both spell one number, and both
have as many zeros in front. A numeral is no more than its zeros and its number, so each of the two
determines the other.

* `eq_numeral`, `number_numeral`, `zeros_numeral`: numerals are pairs of a number of zeros and a
  number.
* `Spells`: the rule that a text and a byte string follow.
* `spells_iff`, `decode?_eq_some_iff`: writing and reading are both that rule.
* `Address.parse_eq_ok_iff`: an address is read from its own text and from no other.
-/
namespace StorageAgent

namespace Base58

/-! ## Numerals -/

/-- How many zeros a list of digits starts with. -/
def zeros (digits : List Nat) : Nat := (digits.takeWhile (· == 0)).length

/-- The number that digits spell, the most significant first. -/
def number (base : Nat) (digits : List Nat) : Nat := Nat.ofDigits base digits.reverse

/-- The digits of a number after some zeros. Zero itself has no digits. -/
def numeral (base zeros n : Nat) : List Nat := List.replicate zeros 0 ++ (Nat.digits base n).reverse

section Numerals

variable {base z n : Nat}

theorem numeral_lt (hbase : 1 < base) {d : Nat} (hd : d ∈ numeral base z n) : d < base := by
  rcases List.mem_append.1 hd with hd | hd
  · rw [(List.mem_replicate.1 hd).2]
    omega
  · exact Nat.digits_lt_base hbase (List.mem_reverse.1 hd)

theorem number_numeral : number base (numeral base z n) = n := by
  rw [number, numeral, List.reverse_append, List.reverse_reverse, List.reverse_replicate,
    Nat.ofDigits_append_replicate_zero, Nat.ofDigits_digits]

/-- The digits of a number do not start with a zero. -/
theorem zeros_reverse_digits : zeros (Nat.digits base n).reverse = 0 := by
  by_cases hn : n = 0
  · rw [hn, Nat.digits_zero]
    rfl
  · have hne : Nat.digits base n ≠ [] := Nat.digits_ne_nil_iff_ne_zero.2 hn
    have hlast : (Nat.digits base n).getLast hne ≠ 0 := Nat.getLast_digit_ne_zero base hn
    rw [← List.dropLast_append_getLast hne, List.reverse_append, List.reverse_singleton, zeros,
      List.singleton_append, List.takeWhile_cons_of_neg (by simpa using hlast), List.length_nil]

theorem zeros_replicate_append {digits : List Nat} :
    zeros (List.replicate z 0 ++ digits) = z + zeros digits := by
  rw [zeros, List.takeWhile_append_of_pos, List.length_append, List.length_replicate, zeros]
  intro d hd
  rw [(List.mem_replicate.1 hd).2]
  rfl

theorem zeros_numeral : zeros (numeral base z n) = z := by
  rw [numeral, zeros_replicate_append, zeros_reverse_digits, Nat.add_zero]

/-- Digits are told by their zeros and their number. -/
theorem eq_numeral (hbase : 1 < base) {digits : List Nat} (hdigits : ∀ d ∈ digits, d < base) :
    digits = numeral base (zeros digits) (number base digits) := by
  let front := digits.takeWhile (· == 0)
  let rest := digits.dropWhile (· == 0)
  have hsplit : digits = front ++ rest := List.takeWhile_append_dropWhile.symm
  have hfront : front = List.replicate (zeros digits) 0 := by
    refine List.eq_replicate_iff.2 ⟨rfl, fun d hd => ?_⟩
    simpa using List.mem_takeWhile_imp hd
  have hnumber : number base digits = Nat.ofDigits base rest.reverse := by
    rw [number, hsplit, hfront, List.reverse_append, List.reverse_replicate,
      Nat.ofDigits_append_replicate_zero]
  have hrest : Nat.digits base (Nat.ofDigits base rest.reverse) = rest.reverse := by
    refine Nat.digits_ofDigits base hbase _ (fun d hd => ?_) (fun hne => ?_)
    · rw [List.mem_reverse] at hd
      exact hdigits d (hsplit ▸ List.mem_append_right _ hd)
    · rw [List.getLast_reverse]
      simpa using List.head_dropWhile_not (· == 0) (List.reverse_ne_nil_iff.1 hne)
  rw [numeral, hnumber, hrest, List.reverse_reverse, ← hfront]
  exact hsplit

/-- A loop that takes off the last digit until nothing is left writes the digits of a number. -/
theorem loop_eq {α : Type} (hbase : 1 < base) (write : Nat → α)
    (loop : Nat → Nat → List α → List α) (hstop : ∀ n tail, loop 0 n tail = tail)
    (hstep : ∀ width n tail, loop (width + 1) n tail =
      if n = 0 then tail else loop width (n / base) (write (n % base) :: tail))
    {width n : Nat} (hn : n < base ^ width) (tail : List α) :
    loop width n tail = (Nat.digits base n).reverse.map write ++ tail := by
  induction width generalizing n tail with
  | zero =>
    have hzero : n = 0 := by simpa using hn
    rw [hzero, hstop, Nat.digits_zero]
    rfl
  | succ width ih =>
    rw [hstep]
    by_cases hzero : n = 0
    · rw [if_pos hzero, hzero, Nat.digits_zero]
      rfl
    · have hquotient : n / base < base ^ width :=
        Nat.div_lt_of_lt_mul (by rwa [Nat.pow_succ, Nat.mul_comm] at hn)
      rw [if_neg hzero, ih hquotient, Nat.digits_def' hbase (Nat.pos_of_ne_zero hzero),
        List.reverse_cons, List.map_append, List.append_assoc]
      rfl

end Numerals

/-! ## Digits of a text -/

theorem value?_digit {v : Nat} (h : v < 58) : value? (digit v) = some v := by
  have hall : ∀ v : Fin 58, value? (digit v) = some v.val := by decide
  exact hall ⟨v, h⟩

theorem value?_eq_some_iff {c : Char} {v : Nat} : value? c = some v ↔ v < 58 ∧ c = digit v := by
  constructor
  · intro h
    obtain ⟨hv, hc, -⟩ := List.idxOf?_eq_some_iff.1 h
    refine ⟨hv, ?_⟩
    rw [digit, List.getD_eq_getElem _ _ hv, hc]
  · rintro ⟨hv, rfl⟩
    exact value?_digit hv

theorem mapM_value?_iff {chars : List Char} {values : List Nat} :
    chars.mapM value? = some values ↔ (∀ v ∈ values, v < 58) ∧ chars = values.map digit := by
  induction chars generalizing values with
  | nil =>
    rw [List.mapM_nil]
    cases values with
    | nil => simp
    | cons v values => simp
  | cons c chars ih =>
    rw [List.mapM_cons]
    simp only [Option.pure_def, Option.bind_eq_bind, Option.bind_eq_some_iff, value?_eq_some_iff,
      ih, Option.some.injEq]
    constructor
    · rintro ⟨v, ⟨hv, rfl⟩, values, ⟨hvalues, rfl⟩, rfl⟩
      exact ⟨List.forall_mem_cons.2 ⟨hv, hvalues⟩, rfl⟩
    · rintro ⟨hvalues, hchars⟩
      cases values with
      | nil => cases hchars
      | cons v values =>
        obtain ⟨rfl, rfl⟩ := List.cons.inj hchars
        obtain ⟨hv, hvalues⟩ := List.forall_mem_cons.1 hvalues
        exact ⟨v, ⟨hv, rfl⟩, values, ⟨hvalues, rfl⟩, rfl⟩

theorem foldl_eq_number (values : List Nat) :
    values.foldl (fun n v => 58 * n + v) 0 = number 58 values := by
  rw [number, Nat.ofDigits_eq_foldr, List.foldr_reverse]
  simp only [Nat.cast_id, Nat.add_comm]

theorem digits_eq {width n : Nat} (h : n < 58 ^ width) :
    digits width n [] = (Nat.digits 58 n).reverse.map digit := by
  rw [loop_eq (by decide) digit digits (fun _ _ => rfl) (fun _ _ _ => rfl) h, List.append_nil]

/-! ## Digits of a byte string -/

/-- The bytes as digits in base 256. -/
def byteValues (b : Bytes) : List Nat := b.map (·.toNat)

theorem length_byteValues (b : Bytes) : (byteValues b).length = b.length := List.length_map _

theorem byteValues_lt {b : Bytes} {v : Nat} (h : v ∈ byteValues b) : v < 256 := by
  obtain ⟨x, -, rfl⟩ := List.mem_map.1 h
  exact x.toNat_lt

theorem byteValues_ofNat {values : List Nat} (h : ∀ v ∈ values, v < 256) :
    byteValues (values.map UInt8.ofNat) = values := by
  rw [byteValues, List.map_map]
  refine (List.map_congr_left fun v hv => ?_).trans (List.map_id _)
  exact UInt8.toNat_ofNat_of_lt' (h v hv)

theorem map_ofNat_byteValues (b : Bytes) : (byteValues b).map UInt8.ofNat = b := by
  rw [byteValues, List.map_map]
  exact (List.map_congr_left fun x _ => UInt8.ofNat_toNat).trans (List.map_id _)

theorem toNatBE_eq_number (b : Bytes) : Bytes.toNatBE b = number 256 (byteValues b) := by
  have hle : ∀ b : Bytes, Bytes.toNatLE b = Nat.ofDigits 256 (b.map (·.toNat)) := by
    intro b
    induction b with
    | nil => rfl
    | cons x b ih => rw [Bytes.toNatLE, ih, List.map_cons, Nat.ofDigits_cons]
  rw [Bytes.toNatBE, hle, number, byteValues, List.map_reverse]

theorem leadingZeros_eq_zeros (b : Bytes) : leadingZeros b = zeros (byteValues b) := by
  have hzero : ((fun v : Nat => v == 0) ∘ fun x : UInt8 => x.toNat) = fun x => x == 0 := by
    funext x
    rw [Function.comp, Bool.eq_iff_iff, beq_iff_eq, beq_iff_eq, ← UInt8.toNat_inj]
    rfl
  rw [leadingZeros, zeros, byteValues, List.takeWhile_map, List.length_map, hzero]

theorem minimalBytes_eq {width n : Nat} (h : n < 256 ^ width) :
    minimalBytes width n [] = (Nat.digits 256 n).reverse.map UInt8.ofNat := by
  rw [loop_eq (by decide) UInt8.ofNat minimalBytes (fun _ _ => rfl) (fun _ _ _ => rfl) h,
    List.append_nil]

/-! ## The rule -/

/-- A text spells a byte string: it consists of digits, which are the same number in base 58 as the
bytes in base 256, and it starts with the digit zero as often as the bytes start with zero. -/
def Spells (text : String) (b : Bytes) : Prop :=
  ∃ values, (∀ v ∈ values, v < 58) ∧ text.toList = values.map digit ∧
    number 58 values = number 256 (byteValues b) ∧ zeros values = zeros (byteValues b)

theorem number_lt {base : Nat} (hbase : 1 < base) {values : List Nat}
    (h : ∀ v ∈ values, v < base) : number base values < base ^ values.length := by
  have hlt := Nat.ofDigits_lt_base_pow_length hbase fun v hv => h v (List.mem_reverse.1 hv)
  rwa [List.length_reverse] at hlt

theorem encode_toList (b : Bytes) : (encode b).toList =
    (numeral 58 (zeros (byteValues b)) (number 256 (byteValues b))).map digit := by
  have hbound : number 256 (byteValues b) < 58 ^ (2 * b.length) := by
    have hlt : number 256 (byteValues b) < 256 ^ b.length := by
      have := number_lt (by decide) fun v => byteValues_lt (b := b) (v := v)
      rwa [length_byteValues] at this
    have hle : 256 ^ b.length ≤ (58 ^ 2) ^ b.length := Nat.pow_le_pow_left (by decide) _
    rw [Nat.pow_mul]
    omega
  rw [encode, String.toList_ofList, toNatBE_eq_number, leadingZeros_eq_zeros, digits_eq hbound,
    numeral, List.map_append, List.map_replicate]
  rfl

theorem spells_iff {text : String} {b : Bytes} : Spells text b ↔ text = encode b := by
  rw [← String.toList_inj, encode_toList]
  constructor
  · rintro ⟨values, hvalues, htext, hnumber, hzeros⟩
    rw [htext, ← hnumber, ← hzeros, ← eq_numeral (by decide) hvalues]
  · intro htext
    exact ⟨_, fun _ => numeral_lt (by decide), htext, number_numeral, zeros_numeral⟩

theorem decode?_eq (text : String) : decode? text = (text.toList.mapM value?).map fun values =>
    (numeral 256 (zeros values) (number 58 values)).map UInt8.ofNat := by
  unfold decode?
  simp only [Option.bind_eq_bind, Option.pure_def]
  cases hvalues : text.toList.mapM value? with
  | none => rfl
  | some values =>
    have hdigits : ∀ v ∈ values, v < 58 := (mapM_value?_iff.1 hvalues).1
    have hbound : number 58 values < 256 ^ values.length :=
      Nat.lt_of_lt_of_le (number_lt (by decide) hdigits) (Nat.pow_le_pow_left (by decide) _)
    rw [Option.bind_some, Option.map_some, foldl_eq_number, minimalBytes_eq hbound, numeral,
      List.map_append, List.map_replicate]
    rfl

theorem decode?_eq_some_iff {text : String} {b : Bytes} :
    decode? text = some b ↔ Spells text b := by
  rw [decode?_eq, Option.map_eq_some_iff]
  constructor
  · rintro ⟨values, hvalues, rfl⟩
    obtain ⟨hdigits, htext⟩ := mapM_value?_iff.1 hvalues
    refine ⟨values, hdigits, htext, ?_⟩
    rw [byteValues_ofNat fun _ => numeral_lt (by decide), number_numeral, zeros_numeral]
    exact ⟨rfl, rfl⟩
  · rintro ⟨values, hdigits, htext, hnumber, hzeros⟩
    refine ⟨values, mapM_value?_iff.2 ⟨hdigits, htext⟩, ?_⟩
    rw [hnumber, hzeros, ← eq_numeral (by decide) fun _ => byteValues_lt, map_ofNat_byteValues]

/-! ## Texts of 32 bytes -/

/-- A digit is one byte of the text. -/
theorem utf8ByteSize_digits {values : List Nat} (h : ∀ v ∈ values, v < 58) :
    (String.ofList (values.map digit)).utf8ByteSize = values.length := by
  induction values with
  | nil => rfl
  | cons v values ih =>
    obtain ⟨hv, hvalues⟩ := List.forall_mem_cons.1 h
    have hall : ∀ v : Fin 58, (digit v).utf8Size = 1 := by decide
    rw [List.map_cons, String.ofList_cons, String.utf8ByteSize_append,
      String.utf8ByteSize_singleton, ih hvalues, hall ⟨v, hv⟩, List.length_cons, Nat.add_comm]

/-- The text of 32 bytes is no longer than what is read. -/
theorem utf8ByteSize_le {text : String} {b : Bytes} (h : Spells text b)
    (hsize : b.length = addressSize) : text.utf8ByteSize ≤ nameLimit := by
  obtain ⟨values, hvalues, htext, hnumber, hzeros⟩ := h
  let z := zeros (byteValues b)
  let n := number 256 (byteValues b)
  have hbytes : addressSize = z + (Nat.digits 256 n).length := by
    have hlength := congrArg List.length
      (@eq_numeral 256 (by decide) (byteValues b) fun _ => byteValues_lt)
    rwa [length_byteValues, hsize, numeral, List.length_append, List.length_replicate,
      List.length_reverse] at hlength
  have htextLength : values.length = z + (Nat.digits 58 n).length := by
    have hlength := congrArg List.length (eq_numeral (by decide) hvalues)
    rwa [hnumber, hzeros, numeral, List.length_append, List.length_replicate,
      List.length_reverse] at hlength
  -- as many bytes as there are take at most twelve more digits
  have hpowers : ∀ k : Fin 33, 256 ^ k.val ≤ 58 ^ (12 + k.val) := by decide +kernel
  have hdigits : (Nat.digits 58 n).length ≤ 12 + (Nat.digits 256 n).length := by
    refine (Nat.digits_length_le_iff (by decide) n).2 ?_
    refine Nat.lt_of_lt_of_le (Nat.lt_base_pow_length_digits (b := 256) (by decide)) ?_
    exact hpowers ⟨(Nat.digits 256 n).length, by simp only [addressSize] at hbytes; omega⟩
  have hsame : text = String.ofList (values.map digit) := by rw [← htext, String.ofList_toList]
  rw [hsame, utf8ByteSize_digits hvalues]
  simp only [addressSize, nameLimit] at hbytes ⊢
  omega

end Base58

/-- An address is read from the text that spells its bytes. -/
theorem Address.parse_eq_ok_iff {text : String} {a : Address} :
    parse text = .ok a ↔ Base58.Spells text a.bytes := by
  have hread : ∀ b : { b : Bytes // b.length = addressSize },
      readName text = .ok b ↔ Base58.Spells text b.1 := by
    intro b
    unfold readName
    constructor
    · intro h
      split at h
      · cases h
      · split at h
        · cases h
        · next bytes hbytes =>
          split at h
          · cases h
            exact Base58.decode?_eq_some_iff.1 hbytes
          · cases h
    · intro h
      rw [if_neg (Nat.not_lt.2 (Base58.utf8ByteSize_le h b.2)), Base58.decode?_eq_some_iff.2 h]
      exact dif_pos b.2
  cases hname : readName text with
  | error fault =>
    refine iff_of_false (fun h => ?_) fun h => ?_
    · rw [parse, hname] at h
      cases h
    · rw [(hread ⟨a.bytes, a.size⟩).2 h] at hname
      cases hname
  | ok b =>
    rw [parse, hname]
    constructor
    · intro h
      cases h
      exact (hread b).1 hname
    · intro h
      rw [(hread ⟨a.bytes, a.size⟩).2 h] at hname
      cases hname
      rfl

/-- A text spells one address. -/
theorem Address.spells_unique {text : String} {a b : Address} (ha : Base58.Spells text a.bytes)
    (hb : Base58.Spells text b.bytes) : a = b :=
  Except.ok.inj ((parse_eq_ok_iff.2 ha).symm.trans (parse_eq_ok_iff.2 hb))

/-- The text of an address spells it, and no other text does. -/
theorem Address.spells_iff {text : String} {a : Address} :
    Base58.Spells text a.bytes ↔ text = a.text :=
  Base58.spells_iff

end StorageAgent
