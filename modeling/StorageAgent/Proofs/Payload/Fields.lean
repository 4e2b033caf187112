import StorageAgent.Proofs.Payload.Layout

/-!
# What the fields of a request take

Six fields of different kinds, checked one after another. What each of them takes is said here apart
from the checks, with its bounds as numbers: an integer up to a greatest one, or a text or byte
string up to a number of bytes, a text counted as UTF-8.

* `Draft.check_isOk_iff`: a draft is accepted if and only if every field takes its argument.
* `Draft.check_eq_error_iff`: the first field that does not take its argument is reported, with a
  fault of its own.
* `Draft.holds_of_says`: each argument of an accepted draft stands in the payload at its place.
* `Draft.encoded_exactly`: what is encoded, how it is laid out, and what is reported otherwise.
-/
namespace StorageAgent

/-! ## Words as bytes -/

/-- The byte at place `i` of a word counts `256 ^ i`. -/
theorem Bytes.ofNatLE_eq_map (width n : Nat) :
    ofNatLE width n = (List.range width).map fun i => UInt8.ofNat (n / 256 ^ i) := by
  induction width generalizing n with
  | zero => rfl
  | succ width ih =>
    have hfirst : UInt8.ofNat (n % 256) = UInt8.ofNat n := by
      apply UInt8.toNat_inj.1
      simp
    rw [ofNatLE, hfirst, ih, List.range_succ_eq_map, List.map_cons, List.map_map, Nat.pow_zero,
      Nat.div_one]
    simp [Function.comp_def, Nat.pow_succ', Nat.div_div_eq_div_mul]

/-! ## Kinds of fields -/

/-- A field holds an integer up to a greatest one, or a byte string of at most some size. -/
inductive FieldKind where
  | integer (maximum : Nat)
  | string (size : Nat)

namespace FieldKind

/-- What a field of some kind takes. A truth value is no integer. -/
def Takes : FieldKind → Argument → Prop
  | integer maximum, a => ∃ n : Nat, a = .int n ∧ n ≤ maximum
  | string size, a => ∃ b, a.bytes? = some b ∧ b.length ≤ size

/-- What is reported about an argument that a field does not take. -/
def fault (label : String) : FieldKind → Argument → InputFault
  | integer maximum, .int n => .outOfRange label maximum n
  | integer _, a => .notInteger label a.kindName
  | string size, a =>
    match a.bytes? with
    | some b => .tooLarge label b.length size
    | none => .notBytes label a.kindName

end FieldKind

/-- Why a check failed, if it did. -/
def faultOf? {ε α : Type} : Except ε α → Option ε
  | .ok _ => none
  | .error fault => some fault

namespace Argument

variable {a : Argument} {field : String} {maximum size : Nat}

theorem within_takes (h : (FieldKind.integer maximum).Takes a) :
    faultOf? (a.within maximum field) = none := by
  obtain ⟨n, ha, hn⟩ := h
  rw [within_eq_ok_iff.2 ⟨ha, hn⟩, faultOf?]

theorem within_not_takes (h : ¬ (FieldKind.integer maximum).Takes a) :
    a.within maximum field = .error ((FieldKind.integer maximum).fault field a) := by
  cases a with
  | int n =>
    have hrange : ¬ (0 ≤ n ∧ n ≤ maximum) := by
      intro hn
      apply h
      exact ⟨n.toNat, by rw [Int.toNat_of_nonneg hn.1], by omega⟩
    rw [within, if_neg hrange, FieldKind.fault]
  | _ => rfl

theorem fitting_takes (h : (FieldKind.string size).Takes a) :
    faultOf? (a.fitting size field) = none := by
  obtain ⟨b, hb, hsize⟩ := h
  have hfits : a.fitting size field = .ok ⟨b, hsize⟩ := fitting_eq_ok_iff.2 hb
  rw [hfits, faultOf?]

theorem fitting_not_takes (h : ¬ (FieldKind.string size).Takes a) :
    a.fitting size field = .error ((FieldKind.string size).fault field a) := by
  rw [fitting_eq, toBytes_eq, FieldKind.fault]
  cases hb : a.bytes? with
  | none => rfl
  | some b =>
    have hsize : ¬ b.length ≤ size := fun hsize => h ⟨b, hb, hsize⟩
    show (if h : b.length ≤ size then _ else _) = _
    rw [dif_neg hsize]

end Argument

/-! ## The six fields -/

/-- The fields of a storage request. -/
inductive Request.Field where
  | clientId
  | requestType
  | name
  | fileId
  | position
  | data
  deriving DecidableEq

namespace Request.Field

/-- All fields in the order in which they are checked. -/
def all : List Field := [clientId, requestType, name, fileId, position, data]

/-- The name of a field in messages. -/
def label : Field → String
  | clientId => "client_id"
  | requestType => "request_type"
  | name => "name"
  | fileId => "file_id"
  | position => "position"
  | data => "data"

/-- What a field holds. -/
def kind : Field → FieldKind
  | clientId => .integer 255
  | requestType => .integer 7
  | name => .string 128
  | fileId => .integer 255
  | position => .integer 18446744073709551615
  | data => .string 512

/-- What is reported about an argument that a field does not take. A request type is one byte before
it is one of eight. -/
def fault : Field → Argument → InputFault
  | requestType, .int n =>
    if 0 ≤ n ∧ n ≤ 255 then .unknownRequestType n else .outOfRange "request_type" 255 n
  | f, a => f.kind.fault f.label a

/-- A fault names the field that it is about. -/
theorem field?_fault (f : Field) (a : Argument) : (f.fault a).field? = some f.label := by
  have hkind : ∀ (label : String) (k : FieldKind), (k.fault label a).field? = some label := by
    intro label k
    unfold FieldKind.fault
    split
    · rfl
    · rfl
    · split <;> rfl
  unfold fault
  split
  · split <;> rfl
  · exact hkind f.label f.kind

variable {f : Field} {a : Argument} {label : String} {maximum width : Nat}

theorem fault_of_string (hkind : f.kind = .string width) :
    f.fault a = (FieldKind.string width).fault f.label a := by
  cases f with
  | name => cases hkind; rfl
  | data => cases hkind; rfl
  | _ => cases hkind

/-- No bytes are missed, and none are too many, where an integer is wanted. -/
theorem fault_of_integer (hkind : f.kind = .integer maximum) :
    (∀ size limit, f.fault a ≠ .tooLarge label size limit) ∧
      ∀ given, f.fault a ≠ .notBytes label given := by
  unfold fault
  split
  · split
    · exact ⟨nofun, nofun⟩
    · exact ⟨nofun, nofun⟩
  · rw [hkind]
    unfold FieldKind.fault
    split
    · exact ⟨nofun, nofun⟩
    · exact ⟨nofun, nofun⟩
    · next hstring _ => cases hstring

/-- A size is reported of a byte string that is longer than its field, and it is the number of its
bytes. -/
theorem fault_eq_tooLarge_iff (h : ¬ f.kind.Takes a) {size limit : Int} :
    f.fault a = .tooLarge label size limit ↔
      label = f.label ∧ ∃ b width, f.kind = .string width ∧ a.bytes? = some b ∧
        width < b.length ∧ size = b.length ∧ limit = width := by
  cases hkind : f.kind with
  | integer maximum =>
    constructor
    · intro htoo
      exact absurd htoo ((fault_of_integer hkind).1 size limit)
    · intro ⟨_, _, _, hstring, _⟩
      cases hstring
  | string width =>
    rw [fault_of_string hkind, FieldKind.fault]
    cases hb : a.bytes? with
    | none => simp
    | some b =>
      have hsize : width < b.length := by
        apply Nat.lt_of_not_le
        intro hle
        apply h
        rw [hkind]
        exact ⟨b, hb, hle⟩
      simp only [InputFault.tooLarge.injEq, FieldKind.string.injEq, Option.some.injEq]
      constructor
      · intro ⟨hlabel, hlength, hlimit⟩
        exact ⟨hlabel.symm, b, width, rfl, rfl, hsize, hlength.symm, hlimit.symm⟩
      · intro ⟨hlabel, b', width', hwidth, hb', _, hlength, hlimit⟩
        subst hwidth hb'
        exact ⟨hlabel.symm, hlength.symm, hlimit.symm⟩

/-- Bytes are missed where a byte string is wanted and there are none. -/
theorem fault_eq_notBytes_iff {given : String} :
    f.fault a = .notBytes label given ↔
      label = f.label ∧ given = a.kindName ∧ (∃ width, f.kind = .string width) ∧
        a.bytes? = none := by
  cases hkind : f.kind with
  | integer maximum =>
    constructor
    · intro hnot
      exact absurd hnot ((fault_of_integer hkind).2 given)
    · intro ⟨_, _, ⟨_, hstring⟩, _⟩
      cases hstring
  | string width =>
    rw [fault_of_string hkind, FieldKind.fault]
    cases hb : a.bytes? with
    | none =>
      simp only [InputFault.notBytes.injEq]
      constructor
      · intro ⟨hlabel, hgiven⟩
        exact ⟨hlabel.symm, hgiven.symm, ⟨width, rfl⟩, trivial⟩
      · intro ⟨hlabel, hgiven, _⟩
        exact ⟨hlabel.symm, hgiven.symm⟩
    | some b => simp

end Request.Field

open Request (Field)

namespace Argument

variable {a : Argument}

theorem requestType_takes (h : Field.requestType.kind.Takes a) :
    faultOf? a.requestType = none := by
  obtain ⟨n, rfl, hn⟩ := h
  obtain ⟨t, rfl⟩ := RequestType.exists_code_iff.2 hn
  rw [requestType_eq_ok_iff.2 rfl, faultOf?]

theorem requestType_not_takes (h : ¬ Field.requestType.kind.Takes a) :
    a.requestType = .error (Field.requestType.fault a) := by
  cases a with
  | int n =>
    by_cases hrange : 0 ≤ n ∧ n ≤ 255
    · obtain ⟨m, rfl⟩ := Int.eq_ofNat_of_zero_le hrange.1
      have hwithin : (int m).within byteMax "request_type" = .ok m :=
        within_eq_ok_iff.2 ⟨rfl, by simp only [byteMax]; omega⟩
      have hnone : RequestType.ofNumber? m = none := by
        cases ht : RequestType.ofNumber? m with
        | none => rfl
        | some t =>
          have hm : m = t.code.toNat := Int.ofNat.inj (RequestType.ofNumber?_eq_some_iff.1 ht)
          exact absurd ⟨m, rfl, RequestType.exists_code_iff.1 ⟨t, hm.symm⟩⟩ h
      rw [requestType, hwithin, Request.Field.fault, if_pos hrange]
      dsimp only [bind, Except.bind]
      rw [hnone]
    · have hbyte : ¬ (FieldKind.integer byteMax).Takes (int n) := by
        rintro ⟨m, hm, hle⟩
        cases hm
        simp only [byteMax] at hle
        omega
      rw [requestType, within_not_takes hbyte, Request.Field.fault, if_neg hrange]
      rfl
  | _ => rfl

end Argument

namespace Draft

variable {d : Draft} {f : Field}

/-- What a draft gives for a field. -/
def argument (d : Draft) : Field → Argument
  | .clientId => d.clientId
  | .requestType => d.requestType
  | .name => d.name
  | .fileId => d.fileId
  | .position => d.position
  | .data => d.data

/-- A field takes what the draft gives for it. -/
def Fits (d : Draft) (f : Field) : Prop := f.kind.Takes (d.argument f)

/-- A field does not take what the draft gives for it, and all fields before it do. -/
def FirstMisfit (d : Draft) (f : Field) : Prop :=
  ∃ earlier later, Field.all = earlier ++ f :: later ∧ (∀ g ∈ earlier, d.Fits g) ∧ ¬ d.Fits f

theorem FirstMisfit.not_fits (h : d.FirstMisfit f) : ¬ d.Fits f := by
  obtain ⟨_, _, _, _, hmisfit⟩ := h
  exact hmisfit

/-- What the check of one field reports, if anything. -/
def fault? (d : Draft) : Field → Option InputFault
  | .clientId => faultOf? (d.clientId.within byteMax "client_id")
  | .requestType => faultOf? d.requestType.requestType
  | .name => faultOf? (d.name.fitting nameSize "name")
  | .fileId => faultOf? (d.fileId.within byteMax "file_id")
  | .position => faultOf? (d.position.within wordMax "position")
  | .data => faultOf? (d.data.fitting dataSize "data")

theorem fault?_of_fits (h : d.Fits f) : d.fault? f = none := by
  cases f with
  | clientId => exact Argument.within_takes h
  | requestType => exact Argument.requestType_takes h
  | name => exact Argument.fitting_takes h
  | fileId => exact Argument.within_takes h
  | position => exact Argument.within_takes h
  | data => exact Argument.fitting_takes h

theorem fault?_of_not_fits (h : ¬ d.Fits f) : d.fault? f = some (f.fault (d.argument f)) := by
  cases f with
  | clientId => exact congrArg faultOf? (Argument.within_not_takes h)
  | requestType => exact congrArg faultOf? (Argument.requestType_not_takes h)
  | name => exact congrArg faultOf? (Argument.fitting_not_takes h)
  | fileId => exact congrArg faultOf? (Argument.within_not_takes h)
  | position => exact congrArg faultOf? (Argument.within_not_takes h)
  | data => exact congrArg faultOf? (Argument.fitting_not_takes h)

theorem fault?_eq_none_iff : d.fault? f = none ↔ d.Fits f := by
  constructor
  · intro hnone
    by_cases h : d.Fits f
    · exact h
    · rw [fault?_of_not_fits h] at hnone
      cases hnone
  · exact fault?_of_fits

/-- A draft is checked field by field, and the first fault is reported. -/
theorem faultOf?_check (d : Draft) : faultOf? d.check = Field.all.findSome? d.fault? := by
  unfold check
  simp only [Field.all, List.findSome?_cons, List.findSome?_nil, fault?]
  cases d.clientId.within byteMax "client_id" with
  | error _ => rfl
  | ok _ =>
  cases d.requestType.requestType with
  | error _ => rfl
  | ok _ =>
  cases d.name.fitting nameSize "name" with
  | error _ => rfl
  | ok _ =>
  cases d.fileId.within byteMax "file_id" with
  | error _ => rfl
  | ok _ =>
  cases d.position.within wordMax "position" with
  | error _ => rfl
  | ok _ =>
  cases d.data.fitting dataSize "data" with
  | error _ => rfl
  | ok _ => rfl

theorem check_isOk_iff : (∃ r, d.check = .ok r) ↔ ∀ f, d.Fits f := by
  have hnone : faultOf? d.check = none ↔ ∀ f, d.Fits f := by
    rw [faultOf?_check, List.findSome?_eq_none_iff]
    constructor
    · intro h f
      exact fault?_eq_none_iff.1 (h f (by cases f <;> decide))
    · intro h f _
      exact fault?_of_fits (h f)
  rw [← hnone]
  cases d.check with
  | ok r => simp [faultOf?]
  | error fault => simp [faultOf?]

theorem check_eq_error_iff {fault : InputFault} :
    d.check = .error fault ↔ ∃ f, d.FirstMisfit f ∧ fault = f.fault (d.argument f) := by
  have hsome : faultOf? d.check = some fault ↔
      ∃ f, d.FirstMisfit f ∧ fault = f.fault (d.argument f) := by
    rw [faultOf?_check, List.findSome?_eq_some_iff]
    constructor
    · intro ⟨earlier, f, later, hall, hf, hearlier⟩
      have hmisfit : ¬ d.Fits f := by
        intro hfits
        rw [fault?_of_fits hfits] at hf
        cases hf
      rw [fault?_of_not_fits hmisfit, Option.some.injEq] at hf
      refine ⟨f, ⟨earlier, later, hall, ?_, hmisfit⟩, hf.symm⟩
      intro g hg
      exact fault?_eq_none_iff.1 (hearlier g hg)
    · intro ⟨f, ⟨earlier, later, hall, hearlier, hmisfit⟩, hfault⟩
      refine ⟨earlier, f, later, hall, ?_, ?_⟩
      · rw [fault?_of_not_fits hmisfit, hfault]
      · intro g hg
        exact fault?_of_fits (hearlier g hg)
  rw [← hsome]
  cases d.check with
  | ok r => simp [faultOf?]
  | error fault => simp [faultOf?]

end Draft

/-! ## The fields in a payload -/

/-- The values of the fields. -/
structure Request.Contents where
  clientId : Nat
  requestType : Nat
  name : Bytes
  fileId : Nat
  position : Nat
  data : Bytes

/-- The values in a row: bytes, padded byte strings, and a word with its least byte first. -/
def Request.Contents.layout (v : Request.Contents) : Bytes :=
  [3, UInt8.ofNat v.clientId, UInt8.ofNat v.requestType] ++
    (v.name ++ List.replicate (128 - v.name.length) 0) ++
    [UInt8.ofNat v.fileId] ++
    (List.range 8).map (fun i => UInt8.ofNat (v.position / 256 ^ i)) ++
    (v.data ++ List.replicate (512 - v.data.length) 0)

namespace Draft

variable {d : Draft}

/-- The arguments of a draft are these values. -/
structure Holds (d : Draft) (v : Request.Contents) : Prop where
  clientId : d.clientId = .int v.clientId
  requestType : d.requestType = .int v.requestType
  name : d.name.bytes? = some v.name
  fileId : d.fileId = .int v.fileId
  position : d.position = .int v.position
  data : d.data.bytes? = some v.data

theorem encodePayload_send (d : Draft) :
    encodePayload (.int 3) (.send d) = d.check.map Request.payload := by
  have hopcode : (Argument.int 3).opcode = .ok .sendRequest := rfl
  rw [encodePayload, hopcode]
  show (do let call ← Call.check .sendRequest (.send d); return call.payload) = _
  rw [Call.check]
  cases d.check <;> rfl

theorem holds_of_says {r : Request} (h : d.Says Eq r) :
    ∃ v, d.Holds v ∧ r.payload = v.layout := by
  have hbytes : ∀ {a : Argument} {b : Bytes}, a.Gives Eq b → a.bytes? = some b := by
    rintro a _ ⟨given, hgiven, rfl⟩
    exact hgiven
  let v : Request.Contents := ⟨r.clientId.toNat, r.requestType.code.toNat, r.name, r.fileId.toNat,
    r.position.toNat, r.data⟩
  refine ⟨v, ⟨h.clientId, h.requestType, hbytes h.name, h.fileId, h.position, hbytes h.data⟩, ?_⟩
  simp only [Request.payload, Request.Contents.layout, v, UInt8.ofNat_toNat, Bytes.padRight,
    Bytes.ofNatLE_eq_map, nameSize, dataSize]
  simp [Opcode.code]

/-- A text whose characters take two bytes each. -/
def accents (count : Nat) : Argument := .text (String.ofList (List.replicate count 'é'))

theorem bytes?_accents (count : Nat) :
    ∃ b, (accents count).bytes? = some b ∧ b.length = 2 * count := by
  have hchar : (String.utf8EncodeChar 'é').length = 2 := rfl
  refine ⟨_, rfl, ?_⟩
  show (String.ofList (List.replicate count 'é')).toByteArray.data.toList.length = 2 * count
  rw [String.toByteArray_ofList, List.utf8Encode, List.toList_data_toByteArray, List.length_flatMap,
    List.map_replicate, List.sum_replicate_nat, hchar, Nat.mul_comm]

/-- A write that uses each field up to its bound. -/
def brimming : Draft where
  requestType := .int 7
  name := accents 64
  fileId := .int 255
  position := .int 18446744073709551615
  data := .buffer (List.replicate 512 1)
  clientId := .int 255

/-- The same with a name of one character more, and with a truth value behind it. -/
def overflowing : Draft := { brimming with name := accents 65, fileId := .bool true }

theorem brimming_fits (f : Field) : brimming.Fits f := by
  cases f with
  | clientId => exact ⟨255, rfl, by decide⟩
  | requestType => exact ⟨7, rfl, by decide⟩
  | name =>
    obtain ⟨b, hb, hsize⟩ := bytes?_accents 64
    exact ⟨b, hb, by omega⟩
  | fileId => exact ⟨255, rfl, by decide⟩
  | position => exact ⟨18446744073709551615, rfl, by decide⟩
  | data => exact ⟨_, rfl, Nat.le_of_eq List.length_replicate⟩

theorem overflowing_firstMisfit : overflowing.FirstMisfit .name := by
  refine ⟨[.clientId, .requestType], [.fileId, .position, .data], rfl, ?_, ?_⟩
  · intro g hg
    simp only [List.mem_cons, List.not_mem_nil, or_false] at hg
    rcases hg with hg | hg
    · rw [hg]
      exact ⟨255, rfl, by decide⟩
    · rw [hg]
      exact ⟨7, rfl, by decide⟩
  · intro ⟨b, hb, hle⟩
    obtain ⟨b', hb', hsize⟩ := bytes?_accents 65
    have hsame : b = b' := Option.some.inj (hb.symm.trans hb')
    rw [hsame] at hle
    omega

theorem overflowing_check : overflowing.check = .error (.tooLarge "name" 130 128) := by
  obtain ⟨b, hb, hsize⟩ := bytes?_accents 65
  have hfault : Field.name.fault overflowing.name = .tooLarge "name" 130 128 :=
    (Request.Field.fault_eq_tooLarge_iff overflowing_firstMisfit.not_fits).2
      ⟨rfl, b, 128, rfl, hb, by omega, by omega, rfl⟩
  exact check_eq_error_iff.2 ⟨.name, overflowing_firstMisfit, hfault.symm⟩

end Draft
end StorageAgent
