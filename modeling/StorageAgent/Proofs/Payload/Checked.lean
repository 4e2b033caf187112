import StorageAgent.Payload.Codec
import StorageAgent.Proofs.Bytes

/-!
# What accepted arguments say

Arguments are checked field by field, and what passes is a call whose fields fit. Each check is
characterised by the arguments that pass it: an accepted integer is an integer and not a truth
value, an accepted name is a text or a byte string.

* `Argument.toBytes_eq`: which bytes an argument has. A text has those of the standard library.
* `Draft.check_eq_ok_iff`, `Call.check_eq_ok_iff`: which call the arguments of an instruction say.
* `encodePayload_eq_ok_iff`: which payload an opcode and arguments have.
-/
namespace StorageAgent

/-! ## Numbers of opcodes and request types -/

/-- Things with different codes are found by their numbers. -/
theorem find?_code_eq_some_iff {α : Type} {all : List α} {code : α → UInt8} (hall : ∀ a, a ∈ all)
    (hcode : ∀ a b, code a = code b → a = b) {n : Int} {a : α} :
    (all.find? fun a => decide (((code a).toNat : Int) = n)) = some a ↔ n = (code a).toNat := by
  constructor
  · intro h
    have := List.find?_some h
    simpa using (of_decide_eq_true this).symm
  · rintro rfl
    cases h : all.find? fun b => decide (((code b).toNat : Int) = (code a).toNat) with
    | none =>
      have := List.find?_eq_none.1 h a (hall a)
      simp at this
    | some b =>
      have hb : ((code b).toNat : Int) = (code a).toNat := by simpa using List.find?_some h
      rw [hcode b a (UInt8.toNat_inj.1 (Int.ofNat.inj hb))]

theorem Opcode.code_inj (a b : Opcode) (h : a.code = b.code) : a = b := by
  cases a <;> cases b <;> simp_all [code]

theorem RequestType.code_inj (a b : RequestType) (h : a.code = b.code) : a = b := by
  cases a <;> cases b <;> simp_all [code]

theorem Opcode.ofNumber?_eq_some_iff {n : Int} {o : Opcode} :
    ofNumber? n = some o ↔ n = o.code.toNat :=
  find?_code_eq_some_iff (fun o => by cases o <;> decide) code_inj

theorem RequestType.ofNumber?_eq_some_iff {n : Int} {t : RequestType} :
    ofNumber? n = some t ↔ n = t.code.toNat :=
  find?_code_eq_some_iff (fun t => by cases t <;> decide) code_inj

/-- The integers up to 7 are the request types. -/
theorem RequestType.exists_code_iff {n : Nat} :
    (∃ t : RequestType, t.code.toNat = n) ↔ n ≤ 7 := by
  constructor
  · intro ⟨t, ht⟩
    subst ht
    cases t <;> decide
  · intro hn
    have : ∀ m : Fin 8, ∃ t ∈ RequestType.all, t.code.toNat = m := by decide
    obtain ⟨t, -, ht⟩ := this ⟨n, by omega⟩
    exact ⟨t, ht⟩

/-! ## Bytes -/

theorem Text.Utf8.encodeChar_eq (c : Char) : encodeChar c = String.utf8EncodeChar c := by
  have hc : c.toNat < 0x110000 := by
    have := c.valid
    simp only [UInt32.isValidChar, Nat.isValidChar] at this
    show c.val.toNat < 0x110000
    omega
  have hval : c.val.toNat = c.toNat := rfl
  unfold encodeChar String.utf8EncodeChar
  simp only [hval]
  generalize c.toNat = n at hc
  have h1 : n ≤ 127 ↔ n < 0x80 := by omega
  have h2 : n ≤ 2047 ↔ n < 0x800 := by omega
  have h3 : n ≤ 65535 ↔ n < 0x10000 := by omega
  simp only [h1, h2, h3, Nat.add_comm 0x80]
  by_cases hone : n < 0x80
  · simp only [hone, if_true]
  by_cases htwo : n < 0x800
  · have hlead : 0xC0 + n / 64 = n / 64 % 32 + 192 := by omega
    simp only [hone, htwo, if_true, if_false, hlead]
  by_cases hthree : n < 0x10000
  · have hlead : 0xE0 + n / 4096 = n / 4096 % 16 + 224 := by omega
    simp only [hone, htwo, hthree, if_true, if_false, hlead]
  have hlead : 0xF0 + n / 262144 = n / 262144 % 8 + 240 := by omega
  simp only [hone, htwo, hthree, if_false, hlead]

theorem Text.Utf8.encode_eq (s : String) : encode s = s.toUTF8.data.toList := by
  have hchars : encodeChar = String.utf8EncodeChar := funext encodeChar_eq
  show s.toList.flatMap encodeChar = s.toByteArray.data.toList
  rw [hchars, ← String.utf8Encode_toList, List.utf8Encode, List.toList_data_toByteArray]

/-- The bytes of a text in UTF-8, and those of a byte string. Nothing else has bytes. -/
def Argument.bytes? : Argument → Option Bytes
  | text s => some s.toUTF8.data.toList
  | bytes b => some b
  | buffer b => some b
  | zeros count => some (List.replicate count 0)
  | _ => none

theorem Argument.toBytes_eq (a : Argument) (field : String) : a.toBytes field =
    match a.bytes? with
    | some b => .ok b
    | none => .error (.notBytes field a.kindName) := by
  cases a with
  | text s => simp only [toBytes, bytes?, Text.Utf8.encode_eq]
  | _ => rfl

/-- A byte string is what `kept` makes of the bytes of an argument. -/
def Argument.Gives (kept : Bytes → Bytes → Prop) (a : Argument) (b : Bytes) : Prop :=
  ∃ given, a.bytes? = some given ∧ kept given b

/-! ## Fields -/

/-- Two steps pass if the first one does and the second does with its result. -/
theorem bind_eq_ok_iff {ε α β : Type} {x : Except ε α} {f : α → Except ε β} {b : β} :
    (x >>= f) = .ok b ↔ ∃ a, x = .ok a ∧ f a = .ok b := by
  cases x with
  | error e => exact ⟨nofun, by rintro ⟨_, ⟨⟩, -⟩⟩
  | ok a => exact ⟨fun h => ⟨a, rfl, h⟩, by rintro ⟨_, ⟨⟩, h⟩; exact h⟩

namespace Argument

variable {a : Argument} {field : String} {maximum size n : Nat}

theorem within_eq_ok_iff : a.within maximum field = .ok n ↔ a = .int n ∧ n ≤ maximum := by
  cases a with
  | int m =>
    simp only [within, int.injEq]
    split
    · next h =>
      simp only [Except.ok.injEq]
      omega
    · next h =>
      simp only [reduceCtorEq, false_iff]
      omega
  | _ => simp [within]

theorem within_byte_iff {code : UInt8} :
    (∃ n, a.within byteMax field = .ok n ∧ UInt8.ofNat n = code) ↔ a = .int code.toNat := by
  have hcode := code.toNat_lt
  constructor
  · rintro ⟨n, h, rfl⟩
    obtain ⟨rfl, hn⟩ := within_eq_ok_iff.1 h
    have : (UInt8.ofNat n).toNat = n := by rw [UInt8.toNat_ofNat']; simp only [byteMax] at hn; omega
    rw [this]
  · rintro rfl
    exact ⟨code.toNat, within_eq_ok_iff.2 ⟨rfl, by simp only [byteMax]; omega⟩, UInt8.ofNat_toNat⟩

theorem within_word_iff {word : UInt64} :
    (∃ n, a.within wordMax field = .ok n ∧ UInt64.ofNat n = word) ↔ a = .int word.toNat := by
  have hword := word.toNat_lt
  constructor
  · rintro ⟨n, h, rfl⟩
    obtain ⟨rfl, hn⟩ := within_eq_ok_iff.1 h
    have : (UInt64.ofNat n).toNat = n := by
      rw [UInt64.toNat_ofNat']; simp only [wordMax] at hn; omega
    rw [this]
  · rintro rfl
    exact ⟨word.toNat, within_eq_ok_iff.2 ⟨rfl, by simp only [wordMax]; omega⟩, UInt64.ofNat_toNat⟩

theorem requestType_eq_ok_iff {t : RequestType} :
    a.requestType = .ok t ↔ a = .int t.code.toNat := by
  have hcode := t.code.toNat_lt
  rw [requestType, bind_eq_ok_iff]
  constructor
  · rintro ⟨n, hn, h⟩
    obtain ⟨rfl, -⟩ := within_eq_ok_iff.1 hn
    split at h
    · next t' ht =>
      cases h
      rw [RequestType.ofNumber?_eq_some_iff.1 ht]
    · cases h
  · rintro rfl
    refine ⟨t.code.toNat, within_eq_ok_iff.2 ⟨rfl, by simp only [byteMax]; omega⟩, ?_⟩
    rw [RequestType.ofNumber?_eq_some_iff.2 rfl]
    rfl

/-- A byte string of zeros is checked by its length alone, and like any other. -/
theorem fitting_eq (a : Argument) : a.fitting size field = (do
    let b ← a.toBytes field
    if h : b.length ≤ size then return ⟨b, h⟩ else .error (.tooLarge field b.length size)) := by
  cases a with
  | zeros count =>
    simp only [fitting, toBytes]
    by_cases h : count ≤ size
    · simp [h, bind, Except.bind, pure, Except.pure]
    · simp [h, bind, Except.bind]
  | _ => rfl

theorem fitting_eq_ok_iff {b : { b : Bytes // b.length ≤ size }} :
    a.fitting size field = .ok b ↔ a.bytes? = some b.1 := by
  rw [fitting_eq, toBytes_eq]
  cases a.bytes? with
  | none => exact iff_of_false nofun nofun
  | some given =>
    rw [Option.some.injEq]
    constructor
    · intro h
      obtain ⟨_, ⟨⟩, h⟩ := bind_eq_ok_iff.1 h
      split at h
      · cases h
        rfl
      · cases h
    · rintro rfl
      exact bind_eq_ok_iff.2 ⟨b.1, rfl, dif_pos b.2⟩

theorem opcode_eq_ok_iff {o : Opcode} :
    a.opcode = .ok o ↔ a.number? = some (o.code.toNat : Int) := by
  rw [opcode]
  cases hn : a.number? with
  | none => simp
  | some n =>
    rw [Option.bind_some, Option.some.injEq, ← Opcode.ofNumber?_eq_some_iff]
    cases Opcode.ofNumber? n <;> simp

end Argument

/-! ## Requests and calls -/

/-- A draft says what a request holds: the same numbers, and as name and data what `kept` makes of
the given bytes. -/
structure Draft.Says (kept : Bytes → Bytes → Prop) (d : Draft) (r : Request) : Prop where
  clientId : d.clientId = .int r.clientId.toNat
  requestType : d.requestType = .int r.requestType.code.toNat
  name : d.name.Gives kept r.name
  fileId : d.fileId = .int r.fileId.toNat
  position : d.position = .int r.position.toNat
  data : d.data.Gives kept r.data

theorem Draft.check_eq_ok_iff {d : Draft} {r : Request} : d.check = .ok r ↔ d.Says Eq r := by
  simp only [check, bind_eq_ok_iff]
  constructor
  · rintro ⟨clientId, hclient, type, htype, name, hname, fileId, hfile, position, hposition, data,
      hdata, h⟩
    cases h
    exact {
      clientId := Argument.within_byte_iff.1 ⟨_, hclient, rfl⟩
      requestType := Argument.requestType_eq_ok_iff.1 htype
      name := ⟨_, Argument.fitting_eq_ok_iff.1 hname, rfl⟩
      fileId := Argument.within_byte_iff.1 ⟨_, hfile, rfl⟩
      position := Argument.within_word_iff.1 ⟨_, hposition, rfl⟩
      data := ⟨_, Argument.fitting_eq_ok_iff.1 hdata, rfl⟩ }
  · rintro ⟨hclient, htype, ⟨name, hname, rfl⟩, hfile, hposition, ⟨data, hdata, rfl⟩⟩
    obtain ⟨clientId, hclientId, hc⟩ := Argument.within_byte_iff.2 hclient
    obtain ⟨fileId, hfileId, hf⟩ := Argument.within_byte_iff.2 hfile
    obtain ⟨position, hpos, hp⟩ := Argument.within_word_iff.2 hposition
    refine ⟨clientId, hclientId, _, Argument.requestType_eq_ok_iff.2 htype, ⟨r.name, r.name_le⟩,
      Argument.fitting_eq_ok_iff.2 hname, fileId, hfileId, position, hpos, ⟨r.data, r.data_le⟩,
      Argument.fitting_eq_ok_iff.2 hdata, ?_⟩
    rw [hc, hf, hp]
    rfl

/-- The client id that arguments give to a deletion. -/
def Arguments.deletedId : Arguments → Argument
  | .none => .int 0
  | .delete clientId => clientId
  | .send draft => draft.clientId

/-- Arguments say what a call holds, name and data of a request up to `kept`. -/
def Arguments.Says (kept : Bytes → Bytes → Prop) (args : Arguments) : Call → Prop
  | .initBookkeeper => True
  | .createClientAccount => True
  | .deleteClient clientId => args.deletedId = .int clientId.toNat
  | .sendRequest request => ∃ draft, args = .send draft ∧ draft.Says kept request

theorem Call.check_eq_ok_iff {o : Opcode} {args : Arguments} {call : Call} :
    check o args = .ok call ↔ call.opcode = o ∧ args.Says Eq call := by
  cases o with
  | initBookkeeper => cases call <;> simp [check, opcode, Arguments.Says]
  | createClientAccount => cases call <;> simp [check, opcode, Arguments.Says]
  | deleteClient =>
    have hcheck : check .deleteClient args = (do
        let n ← args.deletedId.within byteMax "client_id"
        return deleteClient (UInt8.ofNat n)) := by cases args <;> rfl
    rw [hcheck, bind_eq_ok_iff]
    constructor
    · rintro ⟨n, hn, h⟩
      cases h
      exact ⟨rfl, Argument.within_byte_iff.1 ⟨n, hn, rfl⟩⟩
    · rintro ⟨ho, h⟩
      cases call with
      | deleteClient clientId =>
        obtain ⟨n, hn, rfl⟩ := (Argument.within_byte_iff : _ ↔ args.deletedId = _).2 h
        exact ⟨n, hn, rfl⟩
      | _ => cases ho
  | sendRequest =>
    constructor
    · intro h
      cases args with
      | send draft =>
        rw [check] at h
        cases hd : draft.check with
        | ok request =>
          rw [hd] at h
          cases h
          exact ⟨rfl, draft, rfl, Draft.check_eq_ok_iff.1 hd⟩
        | error fault =>
          rw [hd] at h
          cases h
      | _ => cases h
    · rintro ⟨ho, h⟩
      cases call with
      | sendRequest request =>
        obtain ⟨draft, rfl, hs⟩ := h
        rw [check, Draft.check_eq_ok_iff.2 hs]
        rfl
      | _ => cases ho

theorem encodePayload_eq_ok_iff {o : Argument} {args : Arguments} {payload : Bytes} :
    encodePayload o args = .ok payload ↔
      ∃ call : Call, o.opcode = .ok call.opcode ∧ args.Says Eq call ∧ payload = call.payload := by
  simp only [encodePayload, bind_eq_ok_iff, Call.check_eq_ok_iff]
  constructor
  · rintro ⟨_, ho, call, ⟨rfl, hs⟩, h⟩
    cases h
    exact ⟨call, ho, hs, rfl⟩
  · rintro ⟨call, ho, hs, rfl⟩
    exact ⟨_, ho, call, ⟨rfl, hs⟩, rfl⟩

end StorageAgent
