import StorageAgent.Payload.Codec
import StorageAgent.Proofs.Bytes
import StorageAgent.Proofs.Payload.Checked

/-!
# The layout of a payload

Every field of a payload has its place: it follows a prefix whose length is known. A payload is the
fields at these places in a row, whichever of the two is given.

* `parse_payload`: reading what a call writes gives the call, trimmed.
* `payload_of_parse`: writing what was read gives the payload back, byte for byte.
* `parse_cases`: whatever is not read is refused, for one of four reasons.
-/
namespace StorageAgent

/-! ## Fields at their places -/

namespace Bytes

variable {b field : Bytes} {start size : Nat}

theorem slice_of_eq (front back : Bytes) (hb : b = front ++ (field ++ back))
    (hstart : front.length = start) (hsize : field.length = size) : slice start size b = field := by
  subst hb hstart hsize
  rw [slice, List.drop_left, List.take_left]

theorem getD_of_eq {x : UInt8} (front back : Bytes) (hb : b = front ++ x :: back)
    (hstart : front.length = start) : b.getD start 0 = x := by
  subst hb hstart
  simp

theorem length_slice (h : start + size ≤ b.length) : (slice start size b).length = size := by
  simp only [slice, List.length_take, List.length_drop]
  omega

theorem drop_eq_slice_append (b : Bytes) (start size : Nat) :
    b.drop start = slice start size b ++ b.drop (start + size) := by
  rw [slice, ← List.drop_drop, List.take_append_drop]

theorem drop_eq_getD_cons (b : Bytes) (start : Nat) (h : start < b.length) :
    b.drop start = b.getD start 0 :: b.drop (start + 1) := by
  rw [List.drop_eq_getElem_cons h, List.getD_eq_getElem?_getD, List.getElem?_eq_getElem h,
    Option.getD_some]

end Bytes

namespace Request

theorem length_payload (r : Request) : r.payload.length = Opcode.sendRequest.payloadSize := by
  simp only [payload, List.length_cons, List.length_append, Bytes.length_padRight _ _ r.name_le,
    Bytes.length_padRight _ _ r.data_le, Bytes.length_ofNatLE, Opcode.payloadSize]
  omega

/-- A byte string of full size is its fields in a row. -/
theorem eq_fields {b : Bytes} (h : b.length = Opcode.sendRequest.payloadSize) :
    b = b.getD 0 0 :: b.getD 1 0 :: b.getD 2 0 ::
      (Bytes.slice 3 nameSize b ++ b.getD (3 + nameSize) 0 ::
        (Bytes.slice (4 + nameSize) 8 b ++ Bytes.slice (12 + nameSize) dataSize b)) := by
  have hlength : b.length = 3 + nameSize + 1 + 8 + dataSize := by
    simpa only [Opcode.payloadSize] using h
  -- what stands behind each place, from the last field to the first
  have hend : b.drop (12 + nameSize) = Bytes.slice (12 + nameSize) dataSize b := by
    rw [Bytes.drop_eq_slice_append b _ dataSize, List.drop_eq_nil_of_le (by omega), List.append_nil]
  have hposition :
      b.drop (4 + nameSize) = Bytes.slice (4 + nameSize) 8 b ++ b.drop (12 + nameSize) := by
    rw [Bytes.drop_eq_slice_append b _ 8]
    congr 2
  have hfile : b.drop (3 + nameSize) = b.getD (3 + nameSize) 0 :: b.drop (4 + nameSize) := by
    rw [Bytes.drop_eq_getD_cons b _ (by omega)]
    congr 2
  have hname := Bytes.drop_eq_slice_append b 3 nameSize
  have htype := Bytes.drop_eq_getD_cons b 2 (by omega)
  have hclient := Bytes.drop_eq_getD_cons b 1 (by omega)
  have hcode := Bytes.drop_eq_getD_cons b 0 (by omega)
  rw [← hend, ← hposition, ← hfile, ← hname, ← htype, ← hclient, ← hcode, List.drop_zero]

/-- A request without the zeros at the end of its name and data. -/
def trimmed (r : Request) : Request :=
  { r with
    name := Bytes.trimRight r.name
    data := Bytes.trimRight r.data
    name_le := Nat.le_trans (Bytes.length_trimRight_le _) r.name_le
    data_le := Nat.le_trans (Bytes.length_trimRight_le _) r.data_le }

theorem parse_payload (r : Request) : parse r.payload = .ok r.trimmed := by
  have hname := Bytes.length_padRight nameSize r.name r.name_le
  have hdata := Bytes.length_padRight dataSize r.data r.data_le
  have hposition := Bytes.length_ofNatLE 8 r.position.toNat
  have htype : r.payload.getD 2 0 = r.requestType.code := rfl
  have hclient : r.payload.getD 1 0 = r.clientId := rfl
  -- the three bytes in front of the name
  let head : Bytes := [Opcode.sendRequest.code, r.clientId, r.requestType.code]
  have hhead : head.length = 3 := rfl
  have hnameField : Bytes.slice 3 nameSize r.payload = Bytes.padRight nameSize r.name :=
    Bytes.slice_of_eq head _ rfl rfl hname
  have hfile : r.payload.getD (3 + nameSize) 0 = r.fileId :=
    Bytes.getD_of_eq (head ++ Bytes.padRight nameSize r.name) _ rfl
      (by rw [List.length_append, hhead, hname])
  have hpositionField :
      Bytes.slice (4 + nameSize) 8 r.payload = Bytes.ofNatLE 8 r.position.toNat := by
    refine Bytes.slice_of_eq (head ++ (Bytes.padRight nameSize r.name ++ [r.fileId]))
      (Bytes.padRight dataSize r.data) ?_ ?_ hposition
    · simp [payload, head]
    · simp only [List.length_append, List.length_singleton, hhead, hname]
      omega
  have hdataField :
      Bytes.slice (12 + nameSize) dataSize r.payload = Bytes.padRight dataSize r.data := by
    refine Bytes.slice_of_eq (head ++ (Bytes.padRight nameSize r.name ++
      r.fileId :: Bytes.ofNatLE 8 r.position.toNat)) [] ?_ ?_ hdata
    · simp [payload, head]
    · simp only [List.length_append, List.length_cons, hhead, hname, hposition]
      omega
  have hword : UInt64.ofNat (Bytes.toNatLE (Bytes.ofNatLE 8 r.position.toNat)) = r.position := by
    rw [Bytes.toNatLE_ofNatLE _ _ r.position.toNat_lt, UInt64.ofNat_toNat]
  have hfound : RequestType.ofNumber? r.requestType.code.toNat = some r.requestType :=
    RequestType.ofNumber?_eq_some_iff.2 rfl
  simp only [parse, htype, hclient, hfile, hnameField, hpositionField, hdataField, hword, hfound,
    Bytes.trimRight_padRight]
  rfl

theorem payload_of_parse {b : Bytes} {r : Request}
    (hcode : b.getD 0 0 = Opcode.sendRequest.code)
    (hsize : b.length = Opcode.sendRequest.payloadSize) (h : parse b = .ok r) : r.payload = b := by
  have hlength : b.length = 3 + nameSize + 1 + 8 + dataSize := by
    simpa only [Opcode.payloadSize] using hsize
  simp only [parse] at h
  split at h
  · cases h
  · next t ht =>
    cases h
    have htype : b.getD 2 0 = t.code :=
      UInt8.toNat_inj.1 (Int.ofNat.inj (RequestType.ofNumber?_eq_some_iff.1 ht))
    have hname := Bytes.padRight_trimRight (Bytes.slice 3 nameSize b)
    rw [Bytes.length_slice (by omega)] at hname
    have hdata := Bytes.padRight_trimRight (Bytes.slice (12 + nameSize) dataSize b)
    rw [Bytes.length_slice (by omega)] at hdata
    have hposition : Bytes.ofNatLE 8
        (UInt64.ofNat (Bytes.toNatLE (Bytes.slice (4 + nameSize) 8 b))).toNat =
          Bytes.slice (4 + nameSize) 8 b := by
      have hwidth : (Bytes.slice (4 + nameSize) 8 b).length = 8 := Bytes.length_slice (by omega)
      have hlt := Bytes.toNatLE_lt (Bytes.slice (4 + nameSize) 8 b)
      have heq := Bytes.ofNatLE_toNatLE (Bytes.slice (4 + nameSize) 8 b)
      rw [hwidth] at hlt heq
      have hword : Bytes.toNatLE (Bytes.slice (4 + nameSize) 8 b) < 2 ^ 64 :=
        Nat.lt_of_lt_of_eq hlt (by decide)
      rw [UInt64.toNat_ofNat', Nat.mod_eq_of_lt hword, heq]
    simp only [payload, hname, hdata, hposition, ← hcode, ← htype]
    exact (eq_fields hsize).symm

end Request

/-! ## Payloads of calls -/

namespace Call

/-- A call without the zeros at the end of name and data. -/
def trimmed : Call → Call
  | sendRequest request => sendRequest request.trimmed
  | call => call

theorem length_payload (call : Call) : call.payload.length = call.opcode.payloadSize := by
  cases call with
  | sendRequest request => exact request.length_payload
  | _ => rfl

theorem opcode_trimmed (call : Call) : call.trimmed.opcode = call.opcode := by
  cases call <;> rfl

/-- What the fields behind an opcode are read as. -/
def fields (b : Bytes) : Opcode → Except InputFault Call
  | .initBookkeeper => .ok initBookkeeper
  | .createClientAccount => .ok createClientAccount
  | .deleteClient => .ok (deleteClient (b.getD 1 0))
  | .sendRequest => (Request.parse b).map sendRequest

/-- A byte string that begins with an opcode is read by its length and its fields. -/
theorem parse_of_code {b : Bytes} {o : Opcode} (hne : b ≠ []) (hcode : b.getD 0 0 = o.code) :
    parse b = if b.length = o.payloadSize then fields b o
      else .error (.payloadSize o o.payloadSize b.length) := by
  cases b with
  | nil => exact absurd rfl hne
  | cons code rest =>
    have hfound : Opcode.ofNumber? code.toNat = some o :=
      Opcode.ofNumber?_eq_some_iff.2 (by rw [← hcode]; rfl)
    rw [parse]
    simp only [hfound]
    cases o <;> rfl

theorem parse_payload (call : Call) : parse call.payload = .ok call.trimmed := by
  have hne : call.payload ≠ [] := by cases call <;> nofun
  have hcode : call.payload.getD 0 0 = call.opcode.code := by cases call <;> rfl
  rw [parse_of_code hne hcode, if_pos call.length_payload]
  cases call with
  | sendRequest request =>
    simp only [opcode, payload, fields, request.parse_payload]
    rfl
  | _ => rfl

theorem payload_of_fields {b : Bytes} {o : Opcode} {call : Call} (hcode : b.getD 0 0 = o.code)
    (hsize : b.length = o.payloadSize) (h : fields b o = .ok call) : call.payload = b := by
  cases o with
  | initBookkeeper =>
    obtain ⟨x, rfl⟩ := List.length_eq_one_iff.1 hsize
    cases h
    exact congrArg (fun code => [code]) hcode.symm
  | createClientAccount =>
    obtain ⟨x, rfl⟩ := List.length_eq_one_iff.1 hsize
    cases h
    exact congrArg (fun code => [code]) hcode.symm
  | deleteClient =>
    obtain ⟨x, rest, rfl⟩ := List.exists_cons_of_length_eq_add_one hsize
    obtain ⟨y, rfl⟩ := List.length_eq_one_iff.1 (Nat.succ.inj hsize)
    cases h
    exact congrArg (fun code => [code, y]) hcode.symm
  | sendRequest =>
    rw [fields] at h
    cases hr : Request.parse b with
    | error fault =>
      rw [hr] at h
      cases h
    | ok request =>
      rw [hr] at h
      cases h
      exact Request.payload_of_parse hcode hsize hr

/-- Why a byte string is no payload. -/
inductive Refused : Bytes → InputFault → Prop where
  | empty : Refused [] .emptyPayload
  | opcode {code : UInt8} {rest : Bytes} (h : ∀ o : Opcode, o.code ≠ code) :
      Refused (code :: rest) (.unknownOpcode (toString code.toNat))
  | size {b : Bytes} {o : Opcode} (hcode : b.getD 0 0 = o.code) (h : b.length ≠ o.payloadSize) :
      Refused b (.payloadSize o o.payloadSize b.length)
  | requestType {b : Bytes} (hcode : b.getD 0 0 = Opcode.sendRequest.code)
      (hsize : b.length = Opcode.sendRequest.payloadSize)
      (h : ∀ t : RequestType, t.code ≠ b.getD 2 0) :
      Refused b (.unknownRequestType (b.getD 2 0).toNat)

theorem refused_of_fields {b : Bytes} {o : Opcode} {fault : InputFault}
    (hcode : b.getD 0 0 = o.code) (hsize : b.length = o.payloadSize)
    (h : fields b o = .error fault) : Refused b fault := by
  cases o with
  | sendRequest =>
    have hparse : Request.parse b = .error fault := by
      rw [fields] at h
      cases hr : Request.parse b with
      | error _ => rw [hr] at h; cases h; rfl
      | ok request => rw [hr] at h; cases h
    simp only [Request.parse] at hparse
    split at hparse
    · next ht =>
      cases hparse
      refine .requestType hcode hsize fun t hcode => ?_
      rw [RequestType.ofNumber?_eq_some_iff.2 (by rw [hcode])] at ht
      cases ht
    · cases hparse
  | _ => cases h

/-- A byte string is the payload of the call that it is read as, or it is refused. -/
theorem parse_cases (b : Bytes) :
    (∃ call : Call, parse b = .ok call ∧ call.payload = b) ∨
      ∃ fault, parse b = .error fault ∧ Refused b fault := by
  cases b with
  | nil => exact .inr ⟨_, rfl, .empty⟩
  | cons code rest =>
    cases ho : Opcode.ofNumber? code.toNat with
    | none =>
      refine .inr ⟨.unknownOpcode (toString code.toNat), by rw [parse, ho], ?_⟩
      refine .opcode fun o hcode => ?_
      rw [Opcode.ofNumber?_eq_some_iff.2 (by rw [hcode])] at ho
      cases ho
    | some o =>
      have hcode : (code :: rest).getD 0 0 = o.code :=
        UInt8.toNat_inj.1 (Int.ofNat.inj (Opcode.ofNumber?_eq_some_iff.1 ho))
      rw [parse_of_code (List.cons_ne_nil _ _) hcode]
      by_cases hsize : (code :: rest).length = o.payloadSize
      · rw [if_pos hsize]
        cases hf : fields (code :: rest) o with
        | ok call => exact .inl ⟨call, rfl, payload_of_fields hcode hsize hf⟩
        | error fault => exact .inr ⟨fault, rfl, refused_of_fields hcode hsize hf⟩
      · exact .inr ⟨_, if_neg hsize, .size hcode hsize⟩

end Call
end StorageAgent
