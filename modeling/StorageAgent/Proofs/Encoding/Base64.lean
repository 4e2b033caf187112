import StorageAgent.Encoding
import StorageAgent.Proofs.Bytes

/-!
# Base64 is what RFC 4648 says, and is read again

Three bytes and four digits are the same 24 bits. What is left at the end is filled up with zero
bits, and the digits without a bit of their own are written as padding.

* `Standard`: the groups of a text and the bytes that they are of.
* `standard_iff`: a byte string has one standard text, which is what is written.
* `decode_of_standard`: the lenient reader gives back the bytes of a standard text.
-/
namespace StorageAgent.Base64

/-! ## Digits -/

theorem value?_digit {v : Nat} (h : v < 64) : value? (digit v) = some v := by
  have hall : ∀ v : Fin 64, value? (digit v) = some v.val := by decide +kernel
  exact hall ⟨v, h⟩

theorem digit_ne_pad {v : Nat} (h : v < 64) : digit v ≠ '=' := by
  have hall : ∀ v : Fin 64, digit v ≠ '=' := by decide +kernel
  exact hall ⟨v, h⟩

theorem digit_ascii {v : Nat} (h : v < 64) : (digit v).toNat ≤ 0x7F := by
  have hall : ∀ v : Fin 64, (digit v).toNat ≤ 0x7F := by decide +kernel
  exact hall ⟨v, h⟩

/-! ## The standard -/

/-- A text is the standard form of a byte string. A group of three bytes is four digits of the same
number, one byte is two digits of it followed by four zero bits, and two bytes are three digits of
them followed by two. -/
inductive Standard : Bytes → List Char → Prop where
  | nil : Standard [] []
  | one {a : UInt8} {d₁ d₂ : Nat} (h₁ : d₁ < 64) (h₂ : d₂ < 64)
      (h : 64 * d₁ + d₂ = 16 * a.toNat) : Standard [a] [digit d₁, digit d₂, '=', '=']
  | two {a b : UInt8} {d₁ d₂ d₃ : Nat} (h₁ : d₁ < 64) (h₂ : d₂ < 64) (h₃ : d₃ < 64)
      (h : 64 * (64 * d₁ + d₂) + d₃ = 4 * (256 * a.toNat + b.toNat)) :
      Standard [a, b] [digit d₁, digit d₂, digit d₃, '=']
  | three {a b c : UInt8} {d₁ d₂ d₃ d₄ : Nat} {rest : Bytes} {chars : List Char} (h₁ : d₁ < 64)
      (h₂ : d₂ < 64) (h₃ : d₃ < 64) (h₄ : d₄ < 64)
      (h : 64 * (64 * (64 * d₁ + d₂) + d₃) + d₄ =
        256 * (256 * a.toNat + b.toNat) + c.toNat)
      (hrest : Standard rest chars) :
      Standard (a :: b :: c :: rest) (digit d₁ :: digit d₂ :: digit d₃ :: digit d₄ :: chars)

theorem standard_encodeChars (bytes : Bytes) : Standard bytes (encodeChars bytes) := by
  induction bytes using encodeChars.induct with
  | case1 => exact .nil
  | case2 a =>
    have ha := a.toNat_lt
    exact .one (by omega) (by omega) (by omega)
  | case3 a b =>
    have ha := a.toNat_lt
    have hb := b.toNat_lt
    exact .two (by omega) (by omega) (by omega) (by omega)
  | case4 a b c rest ih =>
    have ha := a.toNat_lt
    have hb := b.toNat_lt
    have hc := c.toNat_lt
    exact .three (by omega) (by omega) (by omega) (by omega) (by omega) ih

/-- The digits of a group are told by its number. -/
theorem Standard.eq_encodeChars {bytes : Bytes} {chars : List Char} (h : Standard bytes chars) :
    chars = encodeChars bytes := by
  induction h with
  | nil => rfl
  | @one a d₁ d₂ h₁ h₂ h =>
    have e₁ : d₁ = a.toNat / 4 := by omega
    have e₂ : d₂ = a.toNat % 4 * 16 := by omega
    rw [encodeChars, e₁, e₂]
  | @two a b d₁ d₂ d₃ h₁ h₂ h₃ h =>
    have ha := a.toNat_lt
    have hb := b.toNat_lt
    have e₁ : d₁ = a.toNat / 4 := by omega
    have e₂ : d₂ = a.toNat % 4 * 16 + b.toNat / 16 := by omega
    have e₃ : d₃ = b.toNat % 16 * 4 := by omega
    rw [encodeChars, e₁, e₂, e₃]
  | @three a b c d₁ d₂ d₃ d₄ rest chars h₁ h₂ h₃ h₄ h hrest ih =>
    have ha := a.toNat_lt
    have hb := b.toNat_lt
    have hc := c.toNat_lt
    have e₁ : d₁ = a.toNat / 4 := by omega
    have e₂ : d₂ = a.toNat % 4 * 16 + b.toNat / 16 := by omega
    have e₃ : d₃ = b.toNat % 16 * 4 + c.toNat / 64 := by omega
    have e₄ : d₄ = c.toNat % 64 := by omega
    rw [encodeChars, e₁, e₂, e₃, e₄, ih]

theorem standard_iff {bytes : Bytes} {text : String} :
    Standard bytes text.toList ↔ text = encode bytes := by
  constructor
  · intro h
    rw [encode, ← h.eq_encodeChars, String.ofList_toList]
  · intro h
    rw [h, encode, String.toList_ofList]
    exact standard_encodeChars bytes

/-! ## Reading -/

section
variable {v bits pads : Nat} {rest : List Char}

theorem decodeChars_digit {p : Position} (h : v < 64) : decodeChars p (digit v :: rest) =
    if p.count = 0 then decodeChars ⟨1, v, 0⟩ rest
    else if p.count = 1 then
      (decodeChars ⟨2, v % 16, 0⟩ rest).map (UInt8.ofNat (p.bits * 4 + v / 16) :: ·)
    else if p.count = 2 then
      (decodeChars ⟨3, v % 4, 0⟩ rest).map (UInt8.ofNat (p.bits * 16 + v / 4) :: ·)
    else (decodeChars Position.start rest).map (UInt8.ofNat (p.bits * 64 + v) :: ·) := by
  rw [decodeChars, if_neg (digit_ne_pad h), value?_digit h]

theorem decodeChars_first (h : v < 64) :
    decodeChars Position.start (digit v :: rest) = decodeChars ⟨1, v, 0⟩ rest :=
  decodeChars_digit h

theorem decodeChars_second (h : v < 64) : decodeChars ⟨1, bits, pads⟩ (digit v :: rest) =
    (decodeChars ⟨2, v % 16, 0⟩ rest).map (UInt8.ofNat (bits * 4 + v / 16) :: ·) :=
  decodeChars_digit h

theorem decodeChars_third (h : v < 64) : decodeChars ⟨2, bits, pads⟩ (digit v :: rest) =
    (decodeChars ⟨3, v % 4, 0⟩ rest).map (UInt8.ofNat (bits * 16 + v / 4) :: ·) :=
  decodeChars_digit h

theorem decodeChars_fourth (h : v < 64) : decodeChars ⟨3, bits, pads⟩ (digit v :: rest) =
    (decodeChars Position.start rest).map (UInt8.ofNat (bits * 64 + v) :: ·) :=
  decodeChars_digit h

end

theorem Standard.decodeChars_eq {bytes : Bytes} {chars : List Char} (h : Standard bytes chars) :
    decodeChars Position.start chars = some bytes := by
  induction h with
  | nil => rfl
  | @one a d₁ d₂ h₁ h₂ h =>
    have ea : UInt8.ofNat (d₁ * 4 + d₂ / 16) = a := Bytes.ofNat_eq (by omega)
    rw [decodeChars_first h₁, decodeChars_second h₂, ea]
    rfl
  | @two a b d₁ d₂ d₃ h₁ h₂ h₃ h =>
    have hb := b.toNat_lt
    have ea : UInt8.ofNat (d₁ * 4 + d₂ / 16) = a := Bytes.ofNat_eq (by omega)
    have eb : UInt8.ofNat (d₂ % 16 * 16 + d₃ / 4) = b := Bytes.ofNat_eq (by omega)
    rw [decodeChars_first h₁, decodeChars_second h₂, decodeChars_third h₃, ea, eb]
    rfl
  | @three a b c d₁ d₂ d₃ d₄ rest chars h₁ h₂ h₃ h₄ h hrest ih =>
    have hb := b.toNat_lt
    have hc := c.toNat_lt
    have ea : UInt8.ofNat (d₁ * 4 + d₂ / 16) = a := Bytes.ofNat_eq (by omega)
    have eb : UInt8.ofNat (d₂ % 16 * 16 + d₃ / 4) = b := Bytes.ofNat_eq (by omega)
    have ec : UInt8.ofNat (d₃ % 4 * 64 + d₄) = c := Bytes.ofNat_eq (by omega)
    rw [decodeChars_first h₁, decodeChars_second h₂, decodeChars_third h₃, decodeChars_fourth h₄,
      ih, ea, eb, ec]
    rfl

/-- A digit and padding are ASCII. -/
theorem Standard.ascii {bytes : Bytes} {chars : List Char} (h : Standard bytes chars) :
    ∀ c ∈ chars, c.toNat ≤ 0x7F := by
  induction h with
  | nil => simp
  | one h₁ h₂ h => simp [digit_ascii h₁, digit_ascii h₂]
  | two h₁ h₂ h₃ h => simp [digit_ascii h₁, digit_ascii h₂, digit_ascii h₃]
  | three h₁ h₂ h₃ h₄ h hrest ih =>
    simpa [digit_ascii h₁, digit_ascii h₂, digit_ascii h₃, digit_ascii h₄] using ih

theorem decode_of_standard {bytes : Bytes} {text : String} (h : Standard bytes text.toList) :
    decode text = .ok bytes := by
  have hascii : text.toList.any (fun c => 0x7F < c.toNat) = false := by
    refine List.any_eq_false.2 fun c hc => ?_
    have := h.ascii c hc
    simpa using this
  rw [decode, hascii, h.decodeChars_eq]
  rfl

theorem decode_encode (bytes : Bytes) : decode (encode bytes) = .ok bytes :=
  decode_of_standard (standard_iff.2 rfl)

end StorageAgent.Base64
