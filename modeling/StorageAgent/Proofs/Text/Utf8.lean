import StorageAgent.Proofs.Bytes
import StorageAgent.Text.Utf8

/-!
# UTF-8 read and written

The reader takes one byte at a time and keeps what it owes to the character that has begun. The
writer gives the bytes of a whole character. What is written is read as it was, and what is read
without a malformed part was written.

* `first_eq_iff`: which bytes begin a character, and what they leave owed.
* `Completes`: the bytes that end a character that has begun.
* `units_encode`: the units of a written text are its characters.
* `decode?_eq_some_iff`: a byte string is read as a text exactly if it is the form of that text.
-/
namespace StorageAgent.Text.Utf8

variable {b : UInt8} {p : Pending} {c : Char} {bytes rest tail : Bytes} {v : Nat}

/-! ## The first byte of a character -/

/-- A byte that begins a character of two, three or four bytes, and what it leaves owed. -/
inductive Begins : UInt8 → Pending → Prop where
  | two {b : UInt8} {a : Nat} (hb : b.toNat = 0xC0 + a) (hlow : 2 ≤ a) (hhigh : a < 32) :
      Begins b ⟨a, 1, 0x80, 0xBF⟩
  | three {b : UInt8} {a : Nat} (hb : b.toNat = 0xE0 + a) (hhigh : a < 16) :
      Begins b ⟨a, 2, if a = 0 then 0xA0 else 0x80, if a = 13 then 0x9F else 0xBF⟩
  | four {b : UInt8} {a : Nat} (hb : b.toNat = 0xF0 + a) (hhigh : a < 5) :
      Begins b ⟨a, 3, if a = 0 then 0x90 else 0x80, if a = 4 then 0x8F else 0xBF⟩

theorem first_of_begins (h : Begins b p) : first b = ([], some p) := by
  cases h with
  | @two a hb hlow hhigh =>
    unfold first
    simp only [hb]
    rw [if_neg (by omega), if_neg (by omega), if_pos (by omega), show 0xC0 + a - 0xC0 = a by omega]
  | @three a hb hhigh =>
    unfold first
    simp only [hb]
    rw [if_neg (by omega), if_neg (by omega), if_neg (by omega)]
    by_cases hzero : a = 0
    · subst hzero
      rfl
    · by_cases hsurrogate : a = 13
      · subst hsurrogate
        rfl
      · rw [if_neg (by omega), if_neg (by omega), if_pos (by omega), if_neg hzero,
          if_neg hsurrogate, show 0xE0 + a - 0xE0 = a by omega]
  | @four a hb hhigh =>
    unfold first
    simp only [hb]
    have hcases : a = 0 ∨ a = 1 ∨ a = 2 ∨ a = 3 ∨ a = 4 := by omega
    rcases hcases with rfl | rfl | rfl | rfl | rfl <;> rfl

/-- A byte is a character, begins one, or does neither. -/
theorem first_cases (b : UInt8) :
    (b.toNat < 0x80 ∧ first b = ([some (Char.ofNat b.toNat)], none)) ∨
      first b = ([none], none) ∨ ∃ p, Begins b p ∧ first b = ([], some p) := by
  by_cases hone : b.toNat < 0x80
  · exact .inl ⟨hone, by simp [first, hone]⟩
  refine .inr ?_
  by_cases htwo : 0xC2 ≤ b.toNat ∧ b.toNat < 0xE0
  · have hb : Begins b _ := .two (a := b.toNat - 0xC0) (by omega) (by omega) (by omega)
    exact .inr ⟨_, hb, first_of_begins hb⟩
  by_cases hthree : 0xE0 ≤ b.toNat ∧ b.toNat < 0xF0
  · have hb : Begins b _ := .three (a := b.toNat - 0xE0) (by omega) (by omega)
    exact .inr ⟨_, hb, first_of_begins hb⟩
  by_cases hfour : 0xF0 ≤ b.toNat ∧ b.toNat < 0xF5
  · have hb : Begins b _ := .four (a := b.toNat - 0xF0) (by omega) (by omega)
    exact .inr ⟨_, hb, first_of_begins hb⟩
  refine .inl ?_
  unfold first
  by_cases hlow : b.toNat < 0xC2
  · simp only [hone, hlow, if_false, if_true]
  · simp only [hone, hlow, if_false]
    rw [if_neg (by omega), if_neg (by omega), if_neg (by omega), if_neg (by omega),
      if_neg (by omega), if_neg (by omega), if_neg (by omega)]

/-! ## The bytes that are owed -/

/-- Bytes that end a character that has begun, and the value of the character. -/
inductive Completes : Pending → Bytes → Nat → Prop where
  | last {p : Pending} {b : UInt8} (howed : p.owed = 1) (hlow : p.low ≤ b.toNat)
      (hhigh : b.toNat ≤ p.high) : Completes p [b] (p.value * 64 + (b.toNat - 0x80))
  | more {p : Pending} {b : UInt8} {tail : Bytes} {v : Nat} (howed : p.owed ≠ 1)
      (hlow : p.low ≤ b.toNat) (hhigh : b.toNat ≤ p.high)
      (h : Completes ⟨p.value * 64 + (b.toNat - 0x80), p.owed - 1, 0x80, 0xBF⟩ tail v) :
      Completes p (b :: tail) v

theorem units_of_completes (h : Completes p tail v) :
    units (some p) (tail ++ rest) = some (Char.ofNat v) :: units none rest := by
  induction h with
  | last howed hlow hhigh =>
    simp only [units, step, hlow, hhigh, howed, and_self, if_true,
      List.cons_append, List.nil_append]
  | more howed hlow hhigh _ ih =>
    simp only [List.cons_append, units, step, hlow, hhigh, howed, and_self, if_true, if_false,
      List.nil_append, ih]

/-- If no part is malformed, the character that has begun is ended. -/
theorem exists_completes (howed : 0 < p.owed) (h : none ∉ units (some p) bytes) :
    ∃ tail rest v, bytes = tail ++ rest ∧ Completes p tail v := by
  induction bytes generalizing p with
  | nil => simp [units] at h
  | cons b bytes ih =>
    by_cases hbyte : p.low ≤ b.toNat ∧ b.toNat ≤ p.high
    · by_cases hlast : p.owed = 1
      · exact ⟨[b], bytes, _, rfl, .last hlast hbyte.1 hbyte.2⟩
      · simp only [units, step, hbyte, hlast, and_self, if_true, if_false, List.nil_append] at h
        obtain ⟨tail, rest, v, rfl, hcompletes⟩ := ih (by show 0 < p.owed - 1; omega) h
        exact ⟨b :: tail, rest, v, rfl, .more hlast hbyte.1 hbyte.2 hcompletes⟩
    · simp [units, step, hbyte] at h

/-! ## Characters and their bytes -/

theorem toNat_ofNat {n : Nat} (h : n < 256) : (UInt8.ofNat n).toNat = n := by
  rw [UInt8.toNat_ofNat']
  omega

/-- A scalar value is no surrogate. -/
theorem scalar_toNat (c : Char) : c.toNat < 0xD800 ∨ 0xDFFF < c.toNat ∧ c.toNat < 0x110000 :=
  c.valid

/-- Six bits that end a character. -/
theorem completes_last {value low high m n : Nat} (hm : m < 64) (hlow : low ≤ 0x80 + m)
    (hhigh : 0x80 + m ≤ high) (hn : value * 64 + m = n) :
    Completes ⟨value, 1, low, high⟩ [UInt8.ofNat (0x80 + m)] n := by
  have hbyte : (UInt8.ofNat (0x80 + m)).toNat = 0x80 + m := toNat_ofNat (by omega)
  have h : Completes ⟨value, 1, low, high⟩ [UInt8.ofNat (0x80 + m)] _ :=
    .last rfl (by show low ≤ _; omega) (by show _ ≤ high; omega)
  rwa [hbyte, Nat.add_sub_cancel_left, hn] at h

/-- Six bits that go on with a character. -/
theorem completes_more {value owed low high m n : Nat} (howed : owed ≠ 1) (hm : m < 64)
    (hlow : low ≤ 0x80 + m) (hhigh : 0x80 + m ≤ high)
    (h : Completes ⟨value * 64 + m, owed - 1, 0x80, 0xBF⟩ tail n) :
    Completes ⟨value, owed, low, high⟩ (UInt8.ofNat (0x80 + m) :: tail) n := by
  have hbyte : (UInt8.ofNat (0x80 + m)).toNat = 0x80 + m := toNat_ofNat (by omega)
  refine .more howed (by show low ≤ _; omega) (by show _ ≤ high; omega) ?_
  rwa [hbyte, Nat.add_sub_cancel_left]

/-- The bytes of a character are one byte, or one that begins it and those that end it. -/
theorem encodeChar_cases (c : Char) :
    (c.toNat < 0x80 ∧ encodeChar c = [UInt8.ofNat c.toNat]) ∨
      ∃ b p tail, encodeChar c = b :: tail ∧ Begins b p ∧ Completes p tail c.toNat := by
  have hscalar := scalar_toNat c
  unfold encodeChar
  generalize c.toNat = n at hscalar
  by_cases hone : n < 0x80
  · exact .inl ⟨hone, by simp only [hone, if_true]⟩
  refine .inr ?_
  by_cases htwo : n < 0x800
  · simp only [hone, htwo, if_true, if_false]
    exact ⟨_, _, _, rfl, .two (toNat_ofNat (by omega)) (by omega) (by omega),
      completes_last (by omega) (by omega) (by omega) (by omega)⟩
  by_cases hthree : n < 0x10000
  · simp only [hone, htwo, hthree, if_true, if_false]
    refine ⟨_, _, _, rfl, .three (toNat_ofNat (by omega)) (by omega), ?_⟩
    refine completes_more (by omega) (by omega) ?_ ?_
      (completes_last (by omega) (by omega) (by omega) (by omega))
    · split <;> omega
    · -- a surrogate would begin with the same byte, and go on with a greater one
      split <;> omega
  · simp only [hone, htwo, hthree, if_false]
    refine ⟨_, _, _, rfl, .four (toNat_ofNat (by omega)) (by omega), ?_⟩
    refine completes_more (by omega) (by omega) ?_ ?_
      (completes_more (by omega) (by omega) (by omega) (by omega)
        (completes_last (by omega) (by omega) (by omega) (by omega)))
    · split <;> omega
    · split <;> omega

theorem units_encodeChar (c : Char) (rest : Bytes) :
    units none (encodeChar c ++ rest) = some c :: units none rest := by
  have hchar : Char.ofNat c.toNat = c := Char.ofNat_toNat c
  rcases encodeChar_cases c with ⟨hone, hbytes⟩ | ⟨b, p, tail, hbytes, hbegins, hcompletes⟩
  · have hbyte : (UInt8.ofNat c.toNat).toNat = c.toNat := toNat_ofNat (by omega)
    rw [hbytes, List.singleton_append, units, step, first, hbyte]
    simp only [hone, if_true, hchar, List.singleton_append]
  · rw [hbytes, List.cons_append, units, step, first_of_begins hbegins, List.nil_append,
      units_of_completes hcompletes, hchar]

/-- What is written is read as it was. -/
theorem units_encode (text : String) : units none (encode text) = text.toList.map some := by
  unfold encode
  generalize text.toList = chars
  induction chars with
  | nil => rfl
  | cons c chars ih => rw [List.flatMap_cons, units_encodeChar, ih, List.map_cons]

/-! ## Writing what was read -/

theorem toNat_char {n : Nat} (h : n < 0xD800 ∨ 0xDFFF < n ∧ n < 0x110000) :
    (Char.ofNat n).toNat = n := by
  have hvalid : n.isValidChar := h
  rw [Char.ofNat, dif_pos hvalid]
  rfl

theorem completes_one (howed : p.owed = 1) (h : Completes p tail v) :
    ∃ b, tail = [b] ∧ p.low ≤ b.toNat ∧ b.toNat ≤ p.high ∧ v = p.value * 64 + (b.toNat - 0x80) := by
  cases h with
  | @last _ b _ hlow hhigh => exact ⟨b, rfl, hlow, hhigh, rfl⟩
  | more hmore => exact absurd howed hmore

theorem completes_cons (howed : p.owed ≠ 1) (h : Completes p tail v) :
    ∃ b rest, tail = b :: rest ∧ p.low ≤ b.toNat ∧ b.toNat ≤ p.high ∧
      Completes ⟨p.value * 64 + (b.toNat - 0x80), p.owed - 1, 0x80, 0xBF⟩ rest v := by
  cases h with
  | last hlast => exact absurd hlast howed
  | more _ hlow hhigh h => exact ⟨_, _, rfl, hlow, hhigh, h⟩

/-- Bytes that begin and end a character are those of its value. -/
theorem encodeChar_of_completes (hbegins : Begins b p) (h : Completes p tail v) :
    encodeChar (Char.ofNat v) = b :: tail := by
  cases hbegins with
  | @two a hb hlow hhigh =>
    obtain ⟨b₂, rfl, hlow₂, hhigh₂, hv⟩ := completes_one rfl h
    simp only at hlow₂ hhigh₂ hv
    have hvalue : (Char.ofNat v).toNat = v := toNat_char (by omega)
    have hfirst : UInt8.ofNat (0xC0 + v / 64) = b := Bytes.ofNat_eq (by omega)
    have hlast : UInt8.ofNat (0x80 + v % 64) = b₂ := Bytes.ofNat_eq (by omega)
    simp only [encodeChar, hvalue, hfirst, hlast]
    rw [if_neg (by omega), if_pos (by omega)]
  | @three a hb hhigh =>
    obtain ⟨b₂, _, rfl, hlow₂, hhigh₂, h⟩ := completes_cons (by show 2 ≠ 1; omega) h
    obtain ⟨b₃, rfl, hlow₃, hhigh₃, hv⟩ := completes_one rfl h
    simp only at hlow₂ hhigh₂ hlow₃ hhigh₃ hv
    -- the bounds of the second byte keep the value from being too small or a surrogate
    have hrange : 0x800 ≤ v ∧ v < 0x10000 ∧ ¬ (0xD800 ≤ v ∧ v ≤ 0xDFFF) ∧ 0x80 ≤ b₂.toNat ∧
        b₂.toNat ≤ 0xBF := by
      split at hlow₂ <;> split at hhigh₂ <;> omega
    have hvalue : (Char.ofNat v).toNat = v := toNat_char (by omega)
    have hfirst : UInt8.ofNat (0xE0 + v / 4096) = b := Bytes.ofNat_eq (by omega)
    have hmiddle : UInt8.ofNat (0x80 + v / 64 % 64) = b₂ := Bytes.ofNat_eq (by omega)
    have hlast : UInt8.ofNat (0x80 + v % 64) = b₃ := Bytes.ofNat_eq (by omega)
    simp only [encodeChar, hvalue, hfirst, hmiddle, hlast]
    rw [if_neg (by omega), if_neg (by omega), if_pos (by omega)]
  | @four a hb hhigh =>
    obtain ⟨b₂, _, rfl, hlow₂, hhigh₂, h⟩ := completes_cons (by show 3 ≠ 1; omega) h
    obtain ⟨b₃, _, rfl, hlow₃, hhigh₃, h⟩ := completes_cons (by show 2 ≠ 1; omega) h
    obtain ⟨b₄, rfl, hlow₄, hhigh₄, hv⟩ := completes_one rfl h
    simp only at hlow₂ hhigh₂ hlow₃ hhigh₃ hlow₄ hhigh₄ hv
    have hrange : 0x10000 ≤ v ∧ v < 0x110000 ∧ 0x80 ≤ b₂.toNat ∧ b₂.toNat ≤ 0xBF := by
      split at hlow₂ <;> split at hhigh₂ <;> omega
    have hvalue : (Char.ofNat v).toNat = v := toNat_char (by omega)
    have hfirst : UInt8.ofNat (0xF0 + v / 262144) = b := Bytes.ofNat_eq (by omega)
    have hsecond : UInt8.ofNat (0x80 + v / 4096 % 64) = b₂ := Bytes.ofNat_eq (by omega)
    have hthird : UInt8.ofNat (0x80 + v / 64 % 64) = b₃ := Bytes.ofNat_eq (by omega)
    have hlast : UInt8.ofNat (0x80 + v % 64) = b₄ := Bytes.ofNat_eq (by omega)
    simp only [encodeChar, hvalue, hfirst, hsecond, hthird, hlast]
    rw [if_neg (by omega), if_neg (by omega), if_neg (by omega)]

/-- What is read without a malformed part was written. -/
theorem eq_encode_of_units (h : none ∉ units none bytes) :
    ∃ chars : List Char, units none bytes = chars.map some ∧ bytes = chars.flatMap encodeChar := by
  induction hn : bytes.length using Nat.strongRecOn generalizing bytes with
  | ind n ih =>
    cases bytes with
    | nil => exact ⟨[], rfl, rfl⟩
    | cons b bytes =>
      rcases first_cases b with ⟨hone, hfirst⟩ | hfirst | ⟨p, hbegins, hfirst⟩
      · have hunits : units none (b :: bytes) = some (Char.ofNat b.toNat) :: units none bytes := by
          rw [units, step, hfirst]
          rfl
        rw [hunits] at h ⊢
        have hshorter : bytes.length < n := by
          rw [← hn]
          exact Nat.lt_succ_self _
        have hwell : none ∉ units none bytes := fun hmem => h (List.mem_cons_of_mem _ hmem)
        obtain ⟨chars, hchars, rfl⟩ := ih _ hshorter hwell rfl
        refine ⟨Char.ofNat b.toNat :: chars, by rw [hchars, List.map_cons], ?_⟩
        have hvalue : (Char.ofNat b.toNat).toNat = b.toNat := toNat_char (by omega)
        simp only [List.flatMap_cons, encodeChar, hvalue, hone, if_true, UInt8.ofNat_toNat,
          List.singleton_append]
      · rw [units, step, hfirst] at h
        exact absurd (List.mem_cons_self ..) h
      · have hunits : units none (b :: bytes) = units (some p) bytes := by
          rw [units, step, hfirst]
          rfl
        have howed : 0 < p.owed := by cases hbegins <;> exact Nat.succ_pos _
        rw [hunits] at h ⊢
        obtain ⟨tail, rest, v, rfl, hcompletes⟩ := exists_completes howed h
        rw [units_of_completes hcompletes] at h ⊢
        have hshorter : rest.length < n := by
          rw [← hn, List.length_cons, List.length_append]
          omega
        have hwell : none ∉ units none rest := fun hmem => h (List.mem_cons_of_mem _ hmem)
        obtain ⟨chars, hchars, hrest⟩ := ih _ hshorter hwell rfl
        refine ⟨Char.ofNat v :: chars, by rw [hchars, List.map_cons], ?_⟩
        rw [List.flatMap_cons, encodeChar_of_completes hbegins hcompletes, ← hrest,
          List.cons_append]

theorem mapM_id_map_some (chars : List Char) : (chars.map some).mapM id = some chars := by
  induction chars with
  | nil => rfl
  | cons c chars ih => simp [List.mapM_cons, ih]

theorem eq_map_some_of_mapM_id {units : List (Option Char)} {chars : List Char}
    (h : units.mapM id = some chars) : units = chars.map some := by
  induction units generalizing chars with
  | nil =>
    cases h
    rfl
  | cons unit units ih =>
    simp only [List.mapM_cons, id_eq, Option.bind_eq_bind, Option.bind_eq_some_iff,
      Option.pure_def, Option.some.injEq] at h
    obtain ⟨c, rfl, rest, hrest, rfl⟩ := h
    rw [ih hrest, List.map_cons]

/-- A byte string is read as a text exactly if it is the form of that text. -/
theorem decode?_eq_some_iff {text : String} : decode? bytes = some text ↔ bytes = encode text := by
  unfold decode?
  constructor
  · intro h
    obtain ⟨chars, hchars, rfl⟩ := Option.map_eq_some_iff.1 h
    have hunits := eq_map_some_of_mapM_id hchars
    obtain ⟨written, hwritten, rfl⟩ := eq_encode_of_units (by rw [hunits]; simp)
    rw [hwritten, mapM_id_map_some] at hchars
    cases hchars
    rw [encode, String.toList_ofList]
  · intro h
    subst h
    rw [units_encode, mapM_id_map_some, Option.map_some, String.ofList_toList]

end StorageAgent.Text.Utf8
