import StorageAgent.Proofs.Envelope.Signed

/-!
# How long an envelope is

What is not fixed about the length of an envelope is the number of its keys, which depends on the
addresses that coincide. An opcode fixes how many accounts there are to name and how long the
payload is.

* `Transaction.length_compactLength`, `Message.length_bytes`: the length of a message from those of
  its parts.
* `Envelope.length_keys_eq`: how many keys there are if no address is used for two things.
* `Envelope.length_raw`: the length of an envelope, by its opcode and its keys.
* `Envelope.raw_fits`: an envelope fits in a packet, whatever the addresses.
-/
namespace StorageAgent

open Behaviour

/-! ## Lengths of parts -/

/-- The bytes that a length below 2 ^ 14 takes. -/
theorem length_compactLength {n : Nat} (h : n < 0x4000) :
    (compactLength n).length = if n < 0x80 then 1 else 2 := by
  unfold compactLength
  split
  · rfl
  · rfl

theorem CompiledInstruction.length_bytes (i : CompiledInstruction) :
    i.bytes.length = 1 + (compactLength i.accounts.length).length + i.accounts.length +
      (compactLength i.data.length).length + i.data.length := by
  simp only [bytes, List.length_cons, List.length_append, List.length_map]
  omega

theorem length_flatMap_bytes (keys : List Address) :
    (keys.flatMap (·.bytes)).length = 32 * keys.length := by
  induction keys with
  | nil => rfl
  | cons key keys ih =>
    have hkey : key.bytes.length = 32 := key.size
    rw [List.flatMap_cons, List.length_append, hkey, ih, List.length_cons]
    omega

theorem Message.length_bytes (m : Message) :
    m.bytes.length = 3 + (compactLength m.keys.length).length + 32 * m.keys.length + 32 +
      (compactLength m.instructions.length).length +
        (m.instructions.flatMap (·.bytes)).length := by
  have hblockhash : m.blockhash.bytes.length = 32 := m.blockhash.size
  have hheader : m.header.bytes.length = 3 := rfl
  simp only [bytes, List.length_append, length_flatMap_bytes, hblockhash, hheader]

theorem Transaction.length_single {signature : Bytes} (hsize : signature.length = signatureSize)
    (m : Message) : (Transaction.bytes ⟨[signature], m⟩).length = 65 + m.bytes.length := by
  rw [Envelope.bytes_of_single, List.length_cons, List.length_append, hsize]
  simp only [signatureSize]
  omega

namespace Envelope

variable {ε : Type} {signer : Signer (Behaviour ε)} {limit : Int} {instruction : Instruction}
  {checkpoint : Option Checkpoint} {t : List ε} {envelope : Envelope}
  {payer caller program : Address} {blockhash : Blockhash} {units : Nat}
  {opcode : Argument} {args : Arguments}

/-! ## Keys -/

theorem length_uses :
    (Message.uses payer [.setComputeUnitLimit units, instruction.invocation]).length =
      instruction.accounts.length + 3 := by
  simp [Message.uses, Invocation.setComputeUnitLimit, Instruction.invocation]

/-- No more keys than accounts, two programs and a payer. -/
theorem length_keys_le : (message payer blockhash units instruction).keys.length ≤
    instruction.accounts.length + 3 := by
  have hkeys : (message payer blockhash units instruction).keys.length ≤ _ := Message.length_keys_le
  rwa [length_uses] at hkeys

/-- If the caller pays and no address is used for two things, there is a key for each account and
for each of the two programs. -/
theorem length_keys_eq (blockhash : Blockhash) (units : Nat)
    (hencode : Instruction.encode program caller opcode args = .ok instruction)
    (hdistinct :
      (Address.computeBudgetProgram :: program :: instruction.accounts.map (·.address)).Nodup) :
    (message caller blockhash units instruction).keys.length = instruction.accounts.length + 2 := by
  have hgrants := message_grants caller blockhash units instruction
  have hprogram : instruction.program = program := (Instruction.encode_fits hencode).1
  have hcaller : caller ∈ instruction.accounts.map (·.address) :=
    (Instruction.mem_addresses_iff hencode).2 (.inl rfl)
  have hperm : (message caller blockhash units instruction).keys.Perm
      (Address.computeBudgetProgram :: program :: instruction.accounts.map (·.address)) := by
    refine (List.perm_ext_iff_of_nodup hgrants.distinct hdistinct).2 fun a => ?_
    rw [hgrants.keys, hprogram, List.mem_cons, List.mem_cons]
    constructor
    · rintro (rfl | h)
      · exact .inr (.inr hcaller)
      · exact h
    · exact .inr
  rw [hperm.length_eq, List.length_cons, List.length_cons, List.length_map]

/-! ## The length of an envelope -/

/-- The length of the envelope of an opcode, if the caller pays and no address is used for two
things. -/
def packetSize : Opcode → Nat
  | .initBookkeeper => 310
  | .createClientAccount => 343
  | .deleteClient => 278
  | .sendRequest => 896

/-- The instruction that sets the limit takes 8 bytes. -/
theorem length_limit_bytes (keys : List Address) (units : Nat) :
    (Message.indexed keys (.setComputeUnitLimit units)).bytes.length = 8 := by
  simp [CompiledInstruction.length_bytes, Message.indexed, Invocation.setComputeUnitLimit,
    Bytes.length_ofNatLE, compactLength]

/-- The instruction of an opcode takes what is left of the opcode's size when 110 bytes are taken
off for what all envelopes hold, and 32 for each account and each of the two programs. -/
theorem length_call_bytes (keys : List Address)
    (hencode : Instruction.encode program caller opcode args = .ok instruction) :
    110 + 32 * (instruction.accounts.length + 2) +
        (Message.indexed keys instruction.invocation).bytes.length =
      packetSize instruction.opcode := by
  obtain ⟨haccounts, hpayload⟩ := Instruction.encode_sizes hencode
  rw [CompiledInstruction.length_bytes]
  simp only [Message.indexed, Instruction.invocation, List.length_map, haccounts, hpayload]
  cases instruction.opcode <;> rfl

/-- An envelope takes as many bytes as its opcode tells, and 32 for each key that is there beside
one for each account and each of the two programs. -/
theorem length_raw (payer : Address) (blockhash : Blockhash) (units : Nat) {signature : Bytes}
    (hencode : Instruction.encode program caller opcode args = .ok instruction)
    (hsize : signature.length = signatureSize) :
    (Transaction.bytes ⟨[signature], message payer blockhash units instruction⟩).length +
        32 * (instruction.accounts.length + 2) =
      packetSize instruction.opcode +
        32 * (message payer blockhash units instruction).keys.length := by
  let keys := (message payer blockhash units instruction).keys
  have hcount : keys.length ≤ instruction.accounts.length + 3 := length_keys_le
  have hfew : instruction.accounts.length ≤ 5 := (Instruction.encode_fits hencode).2.1
  have hkeys : (compactLength keys.length).length = 1 := by
    rw [length_compactLength (by omega), if_pos (by omega)]
  have hbytes : (message payer blockhash units instruction).bytes.length =
      3 + (compactLength keys.length).length + 32 * keys.length + 32 + 1 +
        ([Message.indexed keys (.setComputeUnitLimit units),
          Message.indexed keys instruction.invocation].flatMap (·.bytes)).length :=
    Message.length_bytes _
  have hcall := length_call_bytes keys hencode
  have hlimit := length_limit_bytes keys units
  rw [Transaction.length_single hsize, hbytes, List.flatMap_cons, List.flatMap_singleton,
    List.length_append]
  change _ = packetSize instruction.opcode + 32 * keys.length
  omega

/-! ## Fitting in a packet -/

/-- An envelope fits in a packet of 1232 bytes, whatever the signer does and whichever addresses
coincide. If the caller pays and no address is used for two things, the opcode alone tells how long
it is. -/
theorem raw_fits (hencode : Instruction.encode program caller opcode args = .ok instruction)
    (h : Run (assemble signer limit instruction checkpoint) t (.ok envelope)) :
    envelope.raw.length ≤ 1232 ∧
      ((∀ t key, signer.publicKey t key → key = caller) →
        (Address.computeBudgetProgram :: program :: instruction.accounts.map (·.address)).Nodup →
        ∃ o, opcode.opcode = .ok o ∧ envelope.raw.length = packetSize o) := by
  obtain ⟨c, rfl⟩ := exists_checkpoint h
  obtain ⟨units, -, -, hassembled⟩ := assemble_ok_iff.1 h
  cases hassembled with
  | @mk payer blockhash signature _ _ _ _ hfirst _ _ hsize _ =>
    have hraw := length_raw payer blockhash units hencode hsize
    constructor
    · have hkeys : (message payer blockhash units instruction).keys.length ≤
          instruction.accounts.length + 3 := length_keys_le
      have hlongest : packetSize instruction.opcode ≤ 896 := by
        cases instruction.opcode <;> decide
      dsimp only
      omega
    · intro hcaller hdistinct
      obtain rfl := hcaller _ _ hfirst
      have hkeys := length_keys_eq blockhash units hencode hdistinct
      refine ⟨_, Instruction.encode_opcode hencode, ?_⟩
      dsimp only
      omega

/-- The bookkeeper's creation by the key that pays uses no address for two things, and takes 310
bytes. -/
theorem raw_fits_creation :
    Instruction.encode Sample.program Sample.key.address (.int 0) .none = .ok Sample.instruction ∧
      Run (assemble Sample.key.signer defaultUnitLimit Sample.instruction (some Sample.checkpoint))
        ([] : List Empty) (.ok Sample.envelope) ∧
      (Address.computeBudgetProgram :: Sample.program ::
        Sample.instruction.accounts.map (·.address)).Nodup ∧
      Sample.envelope.raw.length = 310 := by
  have hcaller : ∀ (t : List Empty) key, Sample.key.signer.publicKey t key →
      key = Sample.key.address := fun _ _ h => h.2
  have hdistinct : (Address.computeBudgetProgram :: Sample.program ::
      Sample.instruction.accounts.map (·.address)).Nodup := by decide
  obtain ⟨o, hopcode, hsize⟩ := (raw_fits Sample.encode_eq Sample.assembled).2 hcaller hdistinct
  cases hopcode
  exact ⟨Sample.encode_eq, Sample.assembled, hdistinct, hsize⟩

end Envelope
end StorageAgent
