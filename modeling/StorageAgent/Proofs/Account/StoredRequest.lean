import StorageAgent.Account
import StorageAgent.Proofs.Payload.Layout

/-!
# Requests as payloads and as accounts

A request is written twice: the client sends it as a payload, and the program keeps it in the
caller's account. The account has the requester in it as well, and one tail for the data and the
position, of which it keeps only the one that the request type is about. What is read from the
account is what is read from the payload.

* `read_layout`, `layout_read`: the parts of an account in a row, and the row of what was read.
* `read_take`: nothing behind the last part is read.
* `parse_account`: the account of a request is read as the request, trimmed.
* `agrees_with_payload`: an account and a payload of the same request tell the same.
-/
namespace StorageAgent

namespace Bytes

variable {b : Bytes} {start size count : Nat}

theorem slice_take (h : start + size ≤ count) :
    slice start size (b.take count) = slice start size b := by
  rw [slice, slice, List.drop_take, List.take_take, Nat.min_eq_left (by omega)]

theorem getD_take (h : start < count) : (b.take count).getD start 0 = b.getD start 0 := by
  rw [List.getD_eq_getElem?_getD, List.getD_eq_getElem?_getD, List.getElem?_take_of_lt h]

end Bytes

namespace RequestRecord

variable {raw : Bytes} {record : RequestRecord}

/-! ## The parts of an account -/

/-- The parts of an account in a row. The name is filled with zeros. -/
def layout (clientId : UInt8) (requester : Address) (code : UInt8) (name : Bytes) (fileId : UInt8)
    (tail : Bytes) : Bytes :=
  clientId :: (requester.bytes ++ code :: (Bytes.padRight nameSize name ++ fileId :: tail))

/-- What is in the account, whatever the request type is. -/
def read (raw : Bytes) : RequestRecord where
  clientId := raw.getD 0 0
  requester := Address.ofStart (Bytes.slice 1 addressSize raw)
  requestType := RequestType.ofNumber? (raw.getD (1 + addressSize) 0).toNat
  name := Bytes.trimRight (Bytes.slice (2 + addressSize) nameSize raw)
  fileId := raw.getD (2 + addressSize + nameSize) 0
  tail := Bytes.slice (3 + addressSize + nameSize) dataSize raw

theorem parse_eq_error_iff {fault : InputFault} : parse raw = .error fault ↔
    raw.length < accountSize ∧ fault = .shortRequest raw.length accountSize := by
  unfold parse
  split
  · next h => simp [h, eq_comm]
  · next h => simp [h]

theorem parse_of_length (h : accountSize ≤ raw.length) : parse raw = .ok (read raw) :=
  if_neg (by omega)

/-- Nothing behind the last part is read. -/
theorem read_take : read (raw.take accountSize) = read raw := by
  simp only [read, addressSize, nameSize, dataSize, accountSize, Nat.reduceAdd]
  rw [Bytes.getD_take (by omega), Bytes.getD_take (by omega), Bytes.getD_take (by omega),
    Bytes.slice_take (by omega), Bytes.slice_take (by omega), Bytes.slice_take (by omega)]

theorem read_layout {clientId code fileId : UInt8} {requester : Address} {name tail : Bytes}
    (hname : name.length ≤ nameSize) (htail : tail.length = dataSize) :
    read (layout clientId requester code name fileId tail) = {
      clientId, requester, fileId, tail
      requestType := RequestType.ofNumber? code.toNat
      name := Bytes.trimRight name } := by
  have hsize := requester.size
  have hfilled := Bytes.length_padRight nameSize name hname
  have hrequester : Bytes.slice 1 addressSize (layout clientId requester code name fileId tail) =
      requester.bytes := Bytes.slice_of_eq [clientId] _ rfl rfl hsize
  have hcode : (layout clientId requester code name fileId tail).getD (1 + addressSize) 0 = code :=
    Bytes.getD_of_eq (clientId :: requester.bytes) _ rfl (by rw [List.length_cons, hsize]; omega)
  have hnamed : Bytes.slice (2 + addressSize) nameSize
      (layout clientId requester code name fileId tail) = Bytes.padRight nameSize name := by
    refine Bytes.slice_of_eq (clientId :: (requester.bytes ++ [code])) (fileId :: tail) ?_ ?_ hfilled
    · simp [layout]
    · simp only [List.length_cons, List.length_append, List.length_nil, hsize]
      omega
  have hfile : (layout clientId requester code name fileId tail).getD
      (2 + addressSize + nameSize) 0 = fileId := by
    refine Bytes.getD_of_eq
      (clientId :: (requester.bytes ++ code :: Bytes.padRight nameSize name)) tail ?_ ?_
    · simp [layout]
    · simp only [List.length_cons, List.length_append, hsize, hfilled]
      omega
  have hrest : Bytes.slice (3 + addressSize + nameSize) dataSize
      (layout clientId requester code name fileId tail) = tail := by
    refine Bytes.slice_of_eq
      (clientId :: (requester.bytes ++ code :: (Bytes.padRight nameSize name ++ [fileId]))) []
      ?_ ?_ htail
    · simp [layout]
    · simp only [List.length_cons, List.length_append, List.length_nil, hsize, hfilled]
      omega
  simp only [read, hrequester, hcode, hnamed, hfile, hrest, Address.ofStart_bytes,
    Bytes.trimRight_padRight]
  rfl

/-- An account of full size is the row of what is read from it, with its own byte for the type. -/
theorem layout_read (h : raw.length = accountSize) :
    layout (read raw).clientId (read raw).requester (raw.getD (1 + addressSize) 0) (read raw).name
      (read raw).fileId (read raw).tail = raw := by
  have hlength : raw.length = 1 + addressSize + 1 + nameSize + 1 + dataSize := h
  have hrequester : (Address.ofStart (Bytes.slice 1 addressSize raw)).bytes =
      Bytes.slice 1 addressSize raw := Address.bytes_ofStart (Bytes.length_slice (by omega))
  have hname := Bytes.padRight_trimRight (Bytes.slice (2 + addressSize) nameSize raw)
  rw [Bytes.length_slice (by omega)] at hname
  -- what stands behind each place, from the first field to the last
  have hclient := Bytes.drop_eq_getD_cons raw 0 (by omega)
  have hrequest := Bytes.drop_eq_slice_append raw 1 addressSize
  have hcode := Bytes.drop_eq_getD_cons raw (1 + addressSize) (by omega)
  have hnamed := Bytes.drop_eq_slice_append raw (2 + addressSize) nameSize
  have hfile := Bytes.drop_eq_getD_cons raw (2 + addressSize + nameSize) (by omega)
  have hrest := Bytes.drop_eq_slice_append raw (3 + addressSize + nameSize) dataSize
  have hend : raw.drop (3 + addressSize + nameSize + dataSize) = [] :=
    List.drop_eq_nil_of_le (by omega)
  have htype : 1 + addressSize + 1 = 2 + addressSize := by omega
  have htail : 2 + addressSize + nameSize + 1 = 3 + addressSize + nameSize := by omega
  rw [List.drop_zero] at hclient
  rw [htype] at hcode
  rw [htail] at hfile
  rw [hend, List.append_nil] at hrest
  calc
    layout (read raw).clientId (read raw).requester (raw.getD (1 + addressSize) 0) (read raw).name
        (read raw).fileId (read raw).tail
      = raw.getD 0 0 :: (Bytes.slice 1 addressSize raw ++ raw.getD (1 + addressSize) 0 ::
          (Bytes.slice (2 + addressSize) nameSize raw ++ raw.getD (2 + addressSize + nameSize) 0 ::
            Bytes.slice (3 + addressSize + nameSize) dataSize raw)) := by
        simp only [layout, read, hrequester, hname]
    _ = raw := by rw [← hrest, ← hfile, ← hnamed, ← hcode, ← hrequest, ← hclient]

/-- A type that is known has its own byte. -/
theorem getD_of_requestType {t : RequestType} (h : (read raw).requestType = some t) :
    raw.getD (1 + addressSize) 0 = t.code :=
  UInt8.toNat_inj.1 (Int.ofNat.inj (RequestType.ofNumber?_eq_some_iff.1 h))

theorem exists_requestType (h : (raw.getD (1 + addressSize) 0).toNat ≤ 7) :
    ∃ t, (read raw).requestType = some t := by
  obtain ⟨t, ht⟩ := RequestType.exists_code_iff.2 h
  exact ⟨t, RequestType.ofNumber?_eq_some_iff.2 (by rw [ht])⟩

/-- What is known of an account is enough to write its part that is read again. -/
theorem layout_of_known {t : RequestType} (hsize : accountSize ≤ raw.length)
    (h : (read raw).requestType = some t) :
    layout (read raw).clientId (read raw).requester t.code (read raw).name (read raw).fileId
      (read raw).tail = raw.take accountSize := by
  have hlength : (raw.take accountSize).length = accountSize := by
    rw [List.length_take]
    omega
  have hrow := layout_read hlength
  rwa [read_take, Bytes.getD_take (by decide), getD_of_requestType h] at hrow

end RequestRecord

/-! ## The account of a request -/

namespace Request

variable {requester : Address}

/-- The position as the program keeps it, and the data as it keeps those. -/
def tail (r : Request) : Bytes :=
  Bytes.padRight dataSize
    (if r.requestType = .setPosition then Bytes.ofNatLE 8 r.position.toNat else r.data)

/-- The account of a requester whose last request this is. -/
def account (r : Request) (requester : Address) : Bytes :=
  RequestRecord.layout r.clientId requester r.requestType.code r.name r.fileId r.tail

theorem length_tail (r : Request) : r.tail.length = dataSize := by
  refine Bytes.length_padRight _ _ ?_
  split
  · rw [Bytes.length_ofNatLE]
    decide
  · exact r.data_le

theorem length_account (r : Request) (requester : Address) :
    (r.account requester).length = RequestRecord.accountSize := by
  simp only [account, RequestRecord.layout, List.length_cons, List.length_append, requester.size,
    Bytes.length_padRight _ _ r.name_le, r.length_tail, RequestRecord.accountSize]
  omega

/-- The position stands in the first eight bytes of the tail. -/
theorem toNatLE_tail {r : Request} (h : r.requestType = .setPosition) :
    Bytes.toNatLE (r.tail.take 8) = r.position.toNat := by
  have hwidth := Bytes.length_ofNatLE 8 r.position.toNat
  rw [tail, if_pos h, Bytes.padRight, List.take_append_of_le_length (by omega),
    List.take_of_length_le (by omega), Bytes.toNatLE_ofNatLE _ _ r.position.toNat_lt]

/-- A record tells the same as a request. The position is told instead of the data. -/
structure KeptIn (request : Request) (requester : Address) (record : RequestRecord) : Prop where
  requester : record.requester = requester
  clientId : record.clientId = request.clientId
  requestType : record.requestType = some request.requestType
  name : record.name = request.name
  fileId : record.fileId = request.fileId
  data : request.requestType ≠ .setPosition → record.data = request.data
  position : record.position? =
    if request.requestType = .setPosition then some request.position.toNat else none

/-- The account of a request is read as the request. -/
theorem parse_account (r : Request) (requester : Address) :
    ∃ record, RequestRecord.parse (r.account requester) = .ok record ∧
      r.trimmed.KeptIn requester record := by
  have hread : RequestRecord.read (r.account requester) = _ :=
    RequestRecord.read_layout r.name_le r.length_tail
  rw [RequestType.ofNumber?_eq_some_iff.2 rfl] at hread
  have hlength := Nat.le_of_eq (r.length_account requester).symm
  refine ⟨_, (RequestRecord.parse_of_length hlength).trans (congrArg Except.ok hread), ?_⟩
  exact {
    requester := rfl
    clientId := rfl
    requestType := rfl
    name := rfl
    fileId := rfl
    data := by
      intro htype
      have hother : r.requestType ≠ .setPosition := htype
      have hkept : r.tail = Bytes.padRight dataSize r.data := by rw [tail, if_neg hother]
      simp only [RequestRecord.data, hkept, Bytes.trimRight_padRight]
      rfl
    position := by
      by_cases htype : r.requestType = .setPosition
      · simp [RequestRecord.position?, trimmed, htype, toNatLE_tail htype]
      · simp [RequestRecord.position?, trimmed, htype] }

end Request

namespace RequestRecord

theorem agrees_with_payload :
    -- an account is refused for its length only, and nothing behind the last part is read
    (∀ raw fault, parse raw = .error fault ↔
      raw.length < 675 ∧ fault = .shortRequest raw.length 675) ∧
    (∀ raw₁ raw₂ : Bytes, 675 ≤ raw₁.length → raw₁.take 675 = raw₂.take 675 →
      parse raw₁ = parse raw₂) ∧
    -- what is read is enough to write it again
    (∀ raw record, parse raw = .ok record → (∃ code : UInt8, raw[33]? = some code ∧ code ≤ 7) →
      ∃ t, record.requestType = some t ∧
        layout record.clientId record.requester t.code record.name record.fileId record.tail =
          raw.take 675) ∧
    -- the account of a draft tells what the payload of the draft tells
    ∀ opcode draft payload requester, opcode.opcode = .ok .sendRequest →
      encodePayload opcode (.send draft) = .ok payload →
        ∃ given sent record, draft.Says Eq given ∧ Call.parse payload = .ok (.sendRequest sent) ∧
          parse (given.account requester) = .ok record ∧ sent.KeptIn requester record ∧
          draft.requestType = .int sent.requestType.code.toNat ∧
          draft.position = .int sent.position.toNat := by
  refine ⟨fun _ _ => parse_eq_error_iff, ?_, ?_, ?_⟩
  · intro raw₁ raw₂ hlength₁ htake
    have hlength₂ : 675 ≤ raw₂.length := by
      have := congrArg List.length htake
      simp only [List.length_take] at this
      omega
    rw [parse_of_length hlength₁, parse_of_length hlength₂, ← read_take, ← @read_take raw₂]
    exact congrArg (fun raw => Except.ok (read raw)) htake
  · rintro raw record h ⟨code, hcode, hle⟩
    have hlength : accountSize ≤ raw.length := by
      rcases Nat.lt_or_ge raw.length accountSize with hlt | hge
      · rw [parse_eq_error_iff.2 ⟨hlt, rfl⟩] at h
        cases h
      · exact hge
    rw [parse_of_length hlength] at h
    cases h
    have htype : (raw.getD (1 + addressSize) 0).toNat ≤ 7 := by
      rw [List.getD_eq_getElem?_getD, show 1 + addressSize = 33 from rfl, hcode]
      exact hle
    obtain ⟨t, ht⟩ := exists_requestType htype
    exact ⟨t, ht, layout_of_known hlength ht⟩
  · intro opcode draft payload requester hopcode h
    obtain ⟨call, hcall, hsays, rfl⟩ := encodePayload_eq_ok_iff.1 h
    rw [hopcode] at hcall
    cases call with
    | sendRequest given =>
      obtain ⟨_, ⟨⟩, hsays⟩ := hsays
      obtain ⟨record, hrecord, hkept⟩ := given.parse_account requester
      exact ⟨given, given.trimmed, record, hsays, Call.parse_payload _, hrecord, hkept,
        hsays.requestType, hsays.position⟩
    | _ => cases hcall

end RequestRecord

/-- A change of position, with a zero at the end of the name. -/
def Draft.seek : Draft where
  requestType := .int 5
  name := .text "log\x00"
  fileId := .int 7
  position := .int 258

/-- The position is read from the account, and from a longer one that begins with it. -/
theorem RequestRecord.agrees_with_payload_seek :
    (Argument.int 3).opcode = .ok .sendRequest ∧
      ∃ payload given record, encodePayload (.int 3) (.send .seek) = .ok payload ∧
        Draft.seek.Says Eq given ∧ parse (given.account (.ofNat 5)) = .ok record ∧
        record.position? = some 258 ∧ 675 ≤ (given.account (.ofNat 5)).length ∧
        (given.account (.ofNat 5)).take 675 = (given.account (.ofNat 5) ++ [255]).take 675 ∧
        parse (given.account (.ofNat 5) ++ [255]) = .ok record ∧
        (∃ code : UInt8, (given.account (.ofNat 5))[33]? = some code ∧ code ≤ 7) ∧
        ∃ t, record.requestType = some t ∧
          layout record.clientId record.requester t.code record.name record.fileId record.tail =
            (given.account (.ofNat 5)).take 675 := by
  obtain ⟨-, htake, hwritten, hagrees⟩ := agrees_with_payload
  obtain ⟨given, sent, record, hsays, -, hparse, hkept, htype, hposition⟩ :=
    hagrees (.int 3) .seek _ (.ofNat 5) rfl rfl
  have hcode : given.requestType.code = 5 :=
    UInt8.toNat_inj.1 (Int.ofNat.inj (Argument.int.inj hsays.requestType)).symm
  have hset : sent.requestType = .setPosition :=
    RequestType.code_inj _ _ (UInt8.toNat_inj.1 (Int.ofNat.inj (Argument.int.inj htype)).symm)
  have hvalue : 258 = sent.position.toNat := Int.ofNat.inj (Argument.int.inj hposition)
  have hfull : (given.account (.ofNat 5)).length = 675 := given.length_account _
  have hprefix : (given.account (.ofNat 5)).take 675 = (given.account (.ofNat 5) ++ [255]).take 675 := by
    rw [List.take_append_of_le_length (Nat.le_of_eq hfull.symm)]
  have hbyte : ∃ code : UInt8, (given.account (.ofNat 5))[33]? = some code ∧ code ≤ 7 :=
    ⟨given.requestType.code, rfl, by rw [hcode]; decide⟩
  refine ⟨rfl, _, given, record, rfl, hsays, hparse, ?_, Nat.le_of_eq hfull.symm, hprefix, ?_, hbyte,
    hwritten _ _ hparse hbyte⟩
  · rw [hkept.position, if_pos hset, hvalue]
  · rw [← htake _ _ (Nat.le_of_eq hfull.symm) hprefix]
    exact hparse

end StorageAgent
