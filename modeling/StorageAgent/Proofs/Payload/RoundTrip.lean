import StorageAgent.Proofs.Payload.Layout

/-!
# Payloads and what they are read as

Payloads are a canonical format: what is read is exactly what is written. The zeros at the end of
name and data are the one thing that a payload does not tell.

* `Call.parsed_iff_encoded`: the byte strings that are read are the payloads of accepted arguments,
  each the payload of the arguments that it is read as.
* `Call.parse_encoded`: what is read of a payload is what the arguments said, without those zeros.
  Two drafts have the same payload exactly if they agree up to those zeros.
-/
namespace StorageAgent

/-! ## Arguments of what was read -/

/-- The arguments that say a request. -/
def Request.draft (r : Request) : Draft where
  requestType := .int r.requestType.code.toNat
  name := .bytes r.name
  fileId := .int r.fileId.toNat
  position := .int r.position.toNat
  data := .bytes r.data
  clientId := .int r.clientId.toNat

/-- The arguments that say a call. -/
def Call.arguments : Call → Arguments
  | initBookkeeper => .none
  | createClientAccount => .none
  | deleteClient clientId => .delete (.int clientId.toNat)
  | sendRequest request => .send request.draft

theorem Call.arguments_says (call : Call) : call.arguments.Says Eq call := by
  cases call with
  | initBookkeeper => trivial
  | createClientAccount => trivial
  | deleteClient clientId => rfl
  | sendRequest request => exact ⟨_, rfl, rfl, rfl, ⟨_, rfl, rfl⟩, rfl, rfl, ⟨_, rfl, rfl⟩⟩

theorem Call.encodePayload_arguments (call : Call) :
    encodePayload (.int call.opcode.code.toNat) call.arguments = .ok call.payload := by
  have hopcode : (Argument.int call.opcode.code.toNat).opcode = .ok call.opcode :=
    Argument.opcode_eq_ok_iff.2 rfl
  exact encodePayload_eq_ok_iff.2 ⟨call, hopcode, call.arguments_says, rfl⟩

theorem Call.parsed_iff_encoded (b : Bytes) :
    ((∃ call, Call.parse b = .ok call) ↔ ∃ opcode args, encodePayload opcode args = .ok b) ∧
      (∀ call, Call.parse b = .ok call →
        encodePayload (.int call.opcode.code.toNat) call.arguments = .ok b) ∧
      ((¬ ∃ opcode args, encodePayload opcode args = .ok b) →
        ∃ fault, Call.parse b = .error fault ∧ Call.Refused b fault) := by
  have hencoded : ∀ call, Call.parse b = .ok call →
      encodePayload (.int call.opcode.code.toNat) call.arguments = .ok b := by
    intro call h
    rcases Call.parse_cases b with ⟨call', h', rfl⟩ | ⟨fault, h', -⟩
    · rw [h'] at h
      cases h
      exact call.encodePayload_arguments
    · rw [h'] at h
      cases h
  refine ⟨⟨?_, ?_⟩, hencoded, ?_⟩
  · rintro ⟨call, h⟩
    exact ⟨_, _, hencoded call h⟩
  · rintro ⟨opcode, args, h⟩
    obtain ⟨call, -, -, rfl⟩ := encodePayload_eq_ok_iff.1 h
    exact ⟨call.trimmed, call.parse_payload⟩
  · intro hnone
    rcases Call.parse_cases b with ⟨call, h, -⟩ | hrefused
    · exact absurd ⟨_, _, hencoded call h⟩ hnone
    · exact hrefused

/-- A deletion is accepted and read, and with a byte more it is refused. -/
theorem Call.parsed_iff_encoded_deletion :
    (∃ opcode args, encodePayload opcode args = .ok [2, 7]) ∧
      encodePayload (.int 2) (.delete (.int 7)) = .ok [2, 7] ∧
      ∃ fault, Call.parse [2, 7, 0] = .error fault ∧ Call.Refused [2, 7, 0] fault := by
  have hparse : Call.parse [2, 7] = .ok (.deleteClient 7) := rfl
  refine ⟨(Call.parsed_iff_encoded _).1.1 ⟨_, hparse⟩, (Call.parsed_iff_encoded _).2.1 _ hparse, ?_⟩
  refine (Call.parsed_iff_encoded _).2.2 fun h => ?_
  obtain ⟨call, h⟩ := (Call.parsed_iff_encoded _).1.2 h
  cases h

/-! ## What a payload tells -/

theorem Draft.Says.trimmed {d : Draft} {r : Request} (h : d.Says Eq r) :
    d.Says Bytes.StripsZeros r.trimmed := by
  obtain ⟨hclient, htype, ⟨_, hname, rfl⟩, hfile, hposition, ⟨_, hdata, rfl⟩⟩ := h
  exact ⟨hclient, htype, ⟨_, hname, Bytes.trimRight_stripsZeros _⟩, hfile, hposition,
    ⟨_, hdata, Bytes.trimRight_stripsZeros _⟩⟩

theorem Arguments.Says.trimmed {args : Arguments} {call : Call} (h : args.Says Eq call) :
    args.Says Bytes.StripsZeros call.trimmed := by
  cases call with
  | sendRequest request =>
    obtain ⟨draft, rfl, hs⟩ := h
    exact ⟨draft, rfl, hs.trimmed⟩
  | _ => exact h

/-- The payload of a request is that of the trimmed request. -/
theorem Request.payload_trimmed (r : Request) : r.trimmed.payload = r.payload :=
  payload_of_parse rfl r.length_payload r.parse_payload

theorem Request.payload_eq_iff {r₁ r₂ : Request} :
    r₁.payload = r₂.payload ↔ r₁.trimmed = r₂.trimmed := by
  constructor
  · intro h
    have h₁ := r₁.parse_payload
    rw [h, r₂.parse_payload] at h₁
    exact (Except.ok.inj h₁).symm
  · intro h
    rw [← r₁.payload_trimmed, h, r₂.payload_trimmed]

/-- Two drafts agree: on the numbers, and on name and data but for zeros at their end. -/
structure Draft.Agrees (d₁ d₂ : Draft) : Prop where
  clientId : d₁.clientId = d₂.clientId
  requestType : d₁.requestType = d₂.requestType
  name : ∃ kept, d₁.name.Gives Bytes.StripsZeros kept ∧ d₂.name.Gives Bytes.StripsZeros kept
  fileId : d₁.fileId = d₂.fileId
  position : d₁.position = d₂.position
  data : ∃ kept, d₁.data.Gives Bytes.StripsZeros kept ∧ d₂.data.Gives Bytes.StripsZeros kept

/-- There is one byte string that an argument gives when its zeros are left off. -/
theorem Argument.Gives.unique {a : Argument} {b₁ b₂ : Bytes}
    (h₁ : a.Gives Bytes.StripsZeros b₁) (h₂ : a.Gives Bytes.StripsZeros b₂) : b₁ = b₂ := by
  obtain ⟨given, hgiven, hs₁⟩ := h₁
  obtain ⟨given', hgiven', hs₂⟩ := h₂
  rw [hgiven] at hgiven'
  cases hgiven'
  rw [Bytes.stripsZeros_iff.1 hs₁, Bytes.stripsZeros_iff.1 hs₂]

theorem Draft.Says.trimmed_eq_iff {d₁ d₂ : Draft} {r₁ r₂ : Request}
    (h₁ : d₁.Says Bytes.StripsZeros r₁) (h₂ : d₂.Says Bytes.StripsZeros r₂) :
    r₁ = r₂ ↔ d₁.Agrees d₂ := by
  constructor
  · rintro rfl
    exact {
      clientId := h₁.clientId.trans h₂.clientId.symm
      requestType := h₁.requestType.trans h₂.requestType.symm
      name := ⟨_, h₁.name, h₂.name⟩
      fileId := h₁.fileId.trans h₂.fileId.symm
      position := h₁.position.trans h₂.position.symm
      data := ⟨_, h₁.data, h₂.data⟩ }
  · intro h
    have hclient : r₁.clientId = r₂.clientId := by
      have := h₁.clientId.symm.trans (h.clientId.trans h₂.clientId)
      exact UInt8.toNat_inj.1 (Int.ofNat.inj (Argument.int.inj this))
    have htype : r₁.requestType = r₂.requestType := by
      have := h₁.requestType.symm.trans (h.requestType.trans h₂.requestType)
      exact RequestType.code_inj _ _ (UInt8.toNat_inj.1 (Int.ofNat.inj (Argument.int.inj this)))
    have hfile : r₁.fileId = r₂.fileId := by
      have := h₁.fileId.symm.trans (h.fileId.trans h₂.fileId)
      exact UInt8.toNat_inj.1 (Int.ofNat.inj (Argument.int.inj this))
    have hposition : r₁.position = r₂.position := by
      have := h₁.position.symm.trans (h.position.trans h₂.position)
      exact UInt64.toNat_inj.1 (Int.ofNat.inj (Argument.int.inj this))
    obtain ⟨name, hn₁, hn₂⟩ := h.name
    obtain ⟨data, hd₁, hd₂⟩ := h.data
    have hname : r₁.name = r₂.name := (h₁.name.unique hn₁).trans (hn₂.unique h₂.name)
    have hdata : r₁.data = r₂.data := (h₁.data.unique hd₁).trans (hd₂.unique h₂.data)
    cases r₁
    cases r₂
    simp_all

theorem Call.parse_encoded :
    (∀ opcode args payload, encodePayload opcode args = .ok payload →
      ∃ call, Call.parse payload = .ok call ∧
        opcode.number? = some (call.opcode.code.toNat : Int) ∧ args.Says Bytes.StripsZeros call) ∧
    ∀ opcode d₁ d₂ p₁ p₂, opcode.number? = some 3 →
      encodePayload opcode (.send d₁) = .ok p₁ → encodePayload opcode (.send d₂) = .ok p₂ →
        (p₁ = p₂ ↔ d₁.Agrees d₂) := by
  refine ⟨?_, ?_⟩
  · intro opcode args payload h
    obtain ⟨call, ho, hs, rfl⟩ := encodePayload_eq_ok_iff.1 h
    rw [Argument.opcode_eq_ok_iff] at ho
    exact ⟨call.trimmed, call.parse_payload, by rw [call.opcode_trimmed, ho], hs.trimmed⟩
  · intro opcode d₁ d₂ p₁ p₂ ho h₁ h₂
    have hopcode : opcode.opcode = .ok .sendRequest := Argument.opcode_eq_ok_iff.2 ho
    have hsend : ∀ d p, encodePayload opcode (.send d) = .ok p →
        ∃ r : Request, d.Says Bytes.StripsZeros r.trimmed ∧ p = r.payload := by
      intro d p h
      obtain ⟨call, hcall, hs, rfl⟩ := encodePayload_eq_ok_iff.1 h
      rw [hopcode] at hcall
      cases call with
      | sendRequest r =>
        obtain ⟨_, ⟨⟩, hs⟩ := hs
        exact ⟨r, hs.trimmed, rfl⟩
      | _ => cases hcall
    obtain ⟨r₁, hs₁, rfl⟩ := hsend d₁ p₁ h₁
    obtain ⟨r₂, hs₂, rfl⟩ := hsend d₂ p₂ h₂
    rw [Request.payload_eq_iff, hs₁.trimmed_eq_iff hs₂]

/-- A write whose name and data end in zeros. -/
def Draft.zeroEnded : Draft where
  requestType := .int 2
  name := .text "log\x00"
  fileId := .int 7
  position := .int 258
  data := .bytes [1, 0, 2, 0, 0]
  clientId := .int 255

/-- The same write without these zeros. -/
def Draft.zeroless : Draft :=
  { zeroEnded with name := .text "log", data := .bytes [1, 0, 2] }

/-- Zeros at the end are lost, and a zero between other bytes is kept. -/
theorem Call.parse_encoded_zeroEnded :
    ∃ payload other, encodePayload (.int 3) (.send .zeroEnded) = .ok payload ∧
      encodePayload (.int 3) (.send .zeroless) = .ok other ∧ payload = other ∧
      ∃ r : Request, Call.parse payload = .ok (.sendRequest r) ∧ r.clientId = 255 ∧
        r.name = [108, 111, 103] ∧ r.data = [1, 0, 2] := by
  have hends : [108, 111, 103].getLast? ≠ some (0 : UInt8) := by decide
  have hagrees : Draft.zeroEnded.Agrees .zeroless := {
    clientId := rfl
    requestType := rfl
    name := ⟨[108, 111, 103], ⟨_, rfl, ⟨1, by decide⟩, hends⟩, _, rfl, ⟨0, by decide⟩, hends⟩
    fileId := rfl
    position := rfl
    data := ⟨[1, 0, 2], ⟨_, rfl, ⟨2, rfl⟩, by decide⟩, _, rfl, ⟨0, rfl⟩, by decide⟩ }
  obtain ⟨call, hcall, hopcode, hsays⟩ := Call.parse_encoded.1 (.int 3) (.send .zeroEnded) _ rfl
  refine ⟨_, _, rfl, rfl,
    (Call.parse_encoded.2 (.int 3) .zeroEnded .zeroless _ _ rfl rfl rfl).2 hagrees, ?_⟩
  cases call with
  | sendRequest r =>
    obtain ⟨_, ⟨⟩, hsays⟩ := hsays
    have hname : r.name = [108, 111, 103] := hsays.name.unique ⟨_, rfl, ⟨1, by decide⟩, hends⟩
    have hdata : r.data = [1, 0, 2] := hsays.data.unique ⟨_, rfl, ⟨2, rfl⟩, by decide⟩
    have hclient : (r.clientId.toNat : Int) = 255 := (Argument.int.inj hsays.clientId).symm
    exact ⟨r, hcall, UInt8.toNat_inj.1 (Int.ofNat.inj hclient), hname, hdata⟩
  | _ => cases hopcode

end StorageAgent
