import Mathlib.Data.List.DropRight
import StorageAgent.Proofs.Payload.Fields
import StorageAgent.Proofs.Text.Utf8

/-!
# Names as texts

A name goes to the wire as UTF-8, is filled with zeros, and comes back without the zeros at its end.
A zero byte is never a part of a longer character, so nothing but characters U+0000 is lost, and
what is left is well formed.

* `Text.Utf8.zero_mem_encodeChar_iff`: the only character with a zero byte is U+0000.
* `Text.Utf8.trimRight_encode`: trimming the bytes of a text trims its characters.
* `Draft.nameText_kept`: the name that is read is the name that was given, up to those characters.
-/
namespace StorageAgent

namespace Text.Utf8

/-! ## Zero bytes of a text -/

/-- Whether a character is U+0000. -/
def isNul (c : Char) : Bool := c == '\x00'

/-- A text without the characters U+0000 at its end. -/
def dropNuls (text : String) : String := String.ofList (text.toList.rdropWhile isNul)

/-- The bytes of a character that has several are 0x80 or more. -/
theorem high_of_begins {b : UInt8} {p : Pending} (h : Begins b p) :
    0x80 ≤ b.toNat ∧ 0x80 ≤ p.low := by
  cases h with
  | two hb => exact ⟨by omega, Nat.le_refl _⟩
  | three hb =>
    refine ⟨by omega, ?_⟩
    dsimp only
    split <;> omega
  | four hb =>
    refine ⟨by omega, ?_⟩
    dsimp only
    split <;> omega

theorem high_of_completes {p : Pending} {tail : Bytes} {v : Nat} (h : Completes p tail v)
    (hlow : 0x80 ≤ p.low) : ∀ b ∈ tail, 0x80 ≤ b.toNat := by
  induction h with
  | last _ hbyte _ =>
    intro b hb
    rw [List.mem_singleton.1 hb]
    omega
  | more _ hbyte _ _ ih => exact List.forall_mem_cons.2 ⟨by omega, ih (Nat.le_refl _)⟩

theorem zero_mem_encodeChar_iff {c : Char} : 0 ∈ encodeChar c ↔ c = '\x00' := by
  constructor
  · intro h
    have hhigh : ¬ 0x80 ≤ (0 : UInt8).toNat := by decide
    rcases encodeChar_cases c with ⟨hone, hbytes⟩ | ⟨b, p, tail, hbytes, hbegins, hcompletes⟩
    · rw [hbytes, List.mem_singleton] at h
      have hc : c.toNat = 0 := by
        rw [← toNat_ofNat (Nat.lt_trans hone (by decide)), ← h]
        rfl
      rw [← Char.ofNat_toNat c, hc]
    · obtain ⟨hfirst, hlow⟩ := high_of_begins hbegins
      rw [hbytes] at h
      rcases List.mem_cons.1 h with rfl | h
      · exact absurd hfirst hhigh
      · exact absurd (high_of_completes hcompletes hlow 0 h) hhigh
  · intro h
    subst h
    exact List.mem_singleton.2 rfl

theorem encodeChar_ne_nil (c : Char) : encodeChar c ≠ [] := by
  rcases encodeChar_cases c with ⟨-, hbytes⟩ | ⟨b, p, tail, hbytes, -, -⟩
  · rw [hbytes]
    exact List.cons_ne_nil _ _
  · rw [hbytes]
    exact List.cons_ne_nil _ _

theorem flatMap_encodeChar_nuls {chars : List Char} (h : ∀ c ∈ chars, isNul c = true) :
    chars.flatMap encodeChar = List.replicate chars.length 0 := by
  induction chars with
  | nil => rfl
  | cons c chars ih =>
    obtain ⟨hc, hchars⟩ := List.forall_mem_cons.1 h
    obtain rfl : c = '\x00' := by simpa [isNul] using hc
    rw [List.flatMap_cons, ih hchars, List.length_cons, List.replicate_succ]
    rfl

/-- The bytes of a text without characters U+0000 at its end are its bytes without zeros there. -/
theorem trimRight_encode (text : String) :
    Bytes.trimRight (encode text) = encode (dropNuls text) := by
  let kept := text.toList.rdropWhile isNul
  let nuls := text.toList.rtakeWhile isNul
  have hsplit : text.toList = kept ++ nuls := List.rdropWhile_append_rtakeWhile.symm
  have hnuls : nuls.flatMap encodeChar = List.replicate nuls.length 0 := by
    refine flatMap_encodeChar_nuls fun c hc => ?_
    exact List.rtakeWhile_eq_self_iff.1 (List.rtakeWhile_idempotent isNul text.toList) c hc
  have hbytes : encode text = kept.flatMap encodeChar ++ List.replicate nuls.length 0 := by
    rw [encode, hsplit, List.flatMap_append, hnuls]
  have hlast : (kept.flatMap encodeChar).getLast? ≠ some 0 := by
    intro hzero
    by_cases hempty : kept = []
    · rw [hempty] at hzero
      cases hzero
    · have hchar : ¬ isNul (kept.getLast hempty) = true :=
        List.rdropWhile_last_not isNul text.toList hempty
      rw [← List.dropLast_append_getLast hempty, List.flatMap_append, List.flatMap_singleton,
        List.getLast?_append_of_ne_nil _ (encodeChar_ne_nil _)] at hzero
      have hmem := zero_mem_encodeChar_iff.1 (List.mem_of_getLast? hzero)
      exact hchar (by simp [isNul, hmem])
  refine (Bytes.stripsZeros_iff.1 ⟨⟨nuls.length, ?_⟩, ?_⟩).symm
  · rw [hbytes, dropNuls, encode, String.toList_ofList]
  · rwa [dropNuls, encode, String.toList_ofList]

theorem dropNuls_eq_self {text : String} (h : text.toList.getLast? ≠ some '\x00') :
    dropNuls text = text := by
  have hkept : text.toList.rdropWhile isNul = text.toList := by
    refine List.rdropWhile_eq_self_iff.2 fun hne hnul => h ?_
    rw [List.getLast?_eq_some_getLast hne]
    simpa [isNul] using hnul
  rw [dropNuls, hkept, String.ofList_toList]

/-- What was written is read without a replacement. -/
theorem decodeLossy_encode (text : String) : decodeLossy (encode text) = text := by
  rw [decodeLossy, units_encode, List.map_map]
  exact (congrArg String.ofList (List.map_id _)).trans (String.ofList_toList)

end Text.Utf8

/-! ## The name of a request -/

namespace Draft

variable {d : Draft} {s : String}

theorem fits_name_text :
    ({ d with name := .text s } : Draft).Fits .name ↔ s.utf8ByteSize ≤ 128 := by
  constructor
  · intro h
    obtain ⟨b, hb, hsize⟩ := h
    cases hb
    exact hsize
  · intro h
    exact ⟨_, rfl, h⟩

theorem bytes_of_says_text {request : Request}
    (h : ({ d with name := .text s } : Draft).Says Eq request) :
    request.name = Text.Utf8.encode s := by
  obtain ⟨given, hgiven, hname⟩ := h.name
  cases hgiven
  exact hname.symm.trans (Text.Utf8.encode_eq s).symm

/-- A name of at most 128 bytes of UTF-8 is accepted wherever the other fields are, and read again
as it was, but for the characters U+0000 at its end. None of it is replaced. -/
theorem nameText_kept (d : Draft) (s : String) (hsize : s.utf8ByteSize ≤ 128)
    (hothers : ∀ f, f ≠ .name → d.Fits f) :
    ∃ payload request, encodePayload (.int 3) (.send { d with name := .text s }) = .ok payload ∧
      Call.parse payload = .ok (.sendRequest request) ∧
      request.nameText = String.ofList (s.toList.rdropWhile fun c => c == '\x00') ∧
      (s.toList.getLast? ≠ some '\x00' → request.nameText = s) ∧
      Text.Utf8.decode? request.name = some request.nameText := by
  have hfits : ∀ f, ({ d with name := .text s } : Draft).Fits f := by
    intro f
    by_cases hf : f = .name
    · rw [hf]
      exact fits_name_text.2 hsize
    · have h := hothers f hf
      cases f with
      | name => exact absurd rfl hf
      | _ => exact h
  obtain ⟨request, hcheck⟩ := check_isOk_iff.2 hfits
  have hname : request.trimmed.name = Text.Utf8.encode (Text.Utf8.dropNuls s) := by
    rw [← Text.Utf8.trimRight_encode, ← bytes_of_says_text (check_eq_ok_iff.1 hcheck)]
    rfl
  have htext : request.trimmed.nameText = Text.Utf8.dropNuls s := by
    rw [Request.nameText, hname, Text.Utf8.decodeLossy_encode]
  refine ⟨request.payload, request.trimmed, ?_, (Call.sendRequest request).parse_payload, htext,
    ?_, ?_⟩
  · rw [encodePayload_send, hcheck]
    rfl
  · intro hlast
    rw [htext, Text.Utf8.dropNuls_eq_self hlast]
  · rw [htext, hname]
    exact Text.Utf8.decode?_eq_some_iff.2 rfl

/-- Characters of one to four bytes are read again. A U+0000 among them stays, the last ones go. -/
theorem nameText_kept_mixed :
    ∃ payload request,
      encodePayload (.int 3) (.send { brimming with name := .text "aé\x00€😀\x00\x00" }) =
          .ok payload ∧
        Call.parse payload = .ok (.sendRequest request) ∧ request.nameText = "aé\x00€😀" ∧
        Text.Utf8.decode? request.name = some "aé\x00€😀" := by
  have hsize : "aé\x00€😀\x00\x00".utf8ByteSize ≤ 128 := by decide
  have htrimmed : String.ofList ("aé\x00€😀\x00\x00".toList.rdropWhile fun c => c == '\x00') =
      "aé\x00€😀" := by decide
  obtain ⟨payload, request, hencode, hparse, hname, -, hdecode⟩ :=
    nameText_kept brimming _ hsize fun f _ => brimming_fits f
  rw [htrimmed] at hname
  exact ⟨payload, request, hencode, hparse, hname, hname ▸ hdecode⟩

end Draft
end StorageAgent
