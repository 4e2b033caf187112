import StorageAgent.Proofs.Envelope.Guarded
import StorageAgent.Proofs.Envelope.Privileges
import StorageAgent.Proofs.Message.Signers

/-!
# Whether an envelope is fully signed

A transaction is accepted if every key that its header makes a signer has signed. An envelope has
one signature, the payer's. The caller of an instruction is asked to sign as well, so one signature
is enough if the caller pays, and only then.

* `Transaction.FullySigned`: nothing is left to sign.
* `message_signers`: how many keys the message of an instruction asks to sign.
* `assembled_signed_iff`: an envelope is fully signed exactly if the caller is the payer.
-/
namespace StorageAgent

open Behaviour

/-- There are as many signatures as the header asks for, and each key that has to sign has one among
them that verifies over the message. -/
structure Transaction.FullySigned (tx : Transaction) : Prop where
  count : tx.signatures.length = tx.message.header.signers
  verified : ∀ key ∈ tx.message.keys.take tx.message.header.signers, ∃ signature ∈ tx.signatures,
    Crypto.Ed25519.verify key.bytes tx.message.bytes signature = true

namespace Instruction

variable {program caller : Address} {instruction : Instruction}

/-- The caller is an account of the instruction that signs, and no other account does. -/
theorem encode_signer {opcode : Argument} {args : Arguments}
    (h : encode program caller opcode args = .ok instruction) :
    instruction.accounts.filter (·.signer) = [.payer caller] := by
  obtain ⟨kept, read, haccounts, -, -⟩ := encode_roles h
  rw [haccounts]
  simp [AccountRef.payer, AccountRef.owned, AccountRef.fixed]

end Instruction

namespace Envelope

variable {ε : Type} {signer : Signer (Behaviour ε)} {limit : Int} {instruction : Instruction}
  {checkpoint : Option Checkpoint} {t : List ε} {envelope : Envelope} {caller : Address}

/-- In the message of an instruction the payer signs, and so does the caller. -/
theorem signs_iff {payer a : Address} {units : Nat}
    (hsigner : instruction.accounts.filter (·.signer) = [.payer caller]) :
    Message.signs (Message.uses payer [.setComputeUnitLimit units, instruction.invocation]) a = true ↔
      a = payer ∨ a = caller := by
  have hmem : ∀ u, u ∈ instruction.accounts ∧ u.signer = true ↔ u = .payer caller := by
    intro u
    rw [← List.mem_filter, hsigner, List.mem_singleton]
  have hcaller : instruction.Marks (·.signer) a ↔ a = caller := by
    constructor
    · intro ⟨u, hu, haddress, hsigns⟩
      rw [(hmem u).1 ⟨hu, hsigns⟩] at haddress
      exact haddress.symm
    · intro ha
      obtain ⟨hu, hsigns⟩ := (hmem (.payer caller)).2 rfl
      exact ⟨_, hu, ha.symm, hsigns⟩
  rw [signs_uses_iff, hcaller]

/-- The message of an instruction asks the payer to sign, and the caller if that is someone else. -/
theorem message_signers {payer : Address} {blockhash : Blockhash} {units : Nat}
    (hsigner : instruction.accounts.filter (·.signer) = [.payer caller]) :
    (message payer blockhash units instruction).header.signers = if caller = payer then 1 else 2 :=
  Message.signers_of_caller fun _ => signs_iff hsigner

/-- One signature is all that the message asks for exactly if the caller pays. -/
theorem single_fullySigned_iff {payer : Address} {blockhash : Blockhash} {units : Nat}
    {signature : Bytes} (hsigner : instruction.accounts.filter (·.signer) = [.payer caller])
    (hverified : Crypto.Ed25519.verify payer.bytes
      (message payer blockhash units instruction).bytes signature = true) :
    Transaction.FullySigned ⟨[signature], message payer blockhash units instruction⟩ ↔
      caller = payer := by
  have hsigners : (message payer blockhash units instruction).header.signers = _ :=
    message_signers hsigner
  constructor
  · intro hsigned
    have hcount : 1 = (message payer blockhash units instruction).header.signers := hsigned.count
    by_contra hne
    rw [hsigners, if_neg hne] at hcount
    omega
  · intro heq
    rw [if_pos heq] at hsigners
    refine ⟨hsigners.symm, fun key hkey => ⟨signature, List.mem_singleton_self _, ?_⟩⟩
    -- the one key that has to sign is the first, which is the payer's
    have hkeys : (message payer blockhash units instruction).keys.take 1 = [payer] := rfl
    have hpayer : key = payer := by
      simpa only [hsigners, hkeys, List.mem_singleton] using hkey
    rw [hpayer]
    exact hverified

/-- Only a checkpoint with a block hash leads to an envelope. -/
theorem exists_checkpoint (h : Run (assemble signer limit instruction checkpoint) t (.ok envelope)) :
    ∃ c, checkpoint = some c := by
  cases hstamp : Checkpoint.stamp checkpoint with
  | none =>
    obtain ⟨-, hr⟩ := (assemble_unstamped hstamp).1 h
    cases hr
  | some blockhash =>
    obtain ⟨height, rfl⟩ := Checkpoint.stamp_eq_some hstamp
    exact ⟨_, rfl⟩

theorem assembled_signed_iff {program : Address} {opcode : Argument} {args : Arguments}
    (hencode : Instruction.encode program caller opcode args = .ok instruction)
    (h : Run (assemble signer limit instruction checkpoint) t (.ok envelope)) :
    ∃ tx payer t₁ t₂, Transaction.parse? envelope.raw = some tx ∧
      t = t₁ ++ t₂ ∧ signer.publicKey t₁ payer ∧ tx.message.keys.head? = some payer ∧
      tx.signatures.length = 1 ∧
      tx.message.header.signers = (if caller = payer then 1 else 2) ∧
      (tx.FullySigned ↔ caller = payer) := by
  obtain ⟨c, rfl⟩ := exists_checkpoint h
  obtain ⟨units, -, -, hassembled⟩ := assemble_ok_iff.1 h
  obtain ⟨-, haccounts, hpayload⟩ := Instruction.encode_fits hencode
  have hsigner : instruction.accounts.filter (·.signer) = [.payer caller] :=
    Instruction.encode_signer hencode
  cases hassembled with
  | @mk payer blockhash signature t₁ _ _ _ hfirst _ _ hsize hverified =>
    have hshort : instruction.payload.length < 0x10000 := Nat.lt_of_le_of_lt hpayload (by decide)
    have hfew : instruction.accounts.length < 250 := by omega
    exact ⟨_, payer, t₁, _, Transaction.parse?_bytes (signed_encodable hsize hfew hshort), rfl,
      hfirst, rfl, rfl, message_signers hsigner, single_fullySigned_iff hsigner hverified⟩

/-- The bookkeeper's creation is fully signed by the key that asks for it. -/
theorem fullySigned_creation :
    Instruction.encode Sample.program Sample.key.address (.int 0) .none = .ok Sample.instruction ∧
      Run (assemble Sample.key.signer defaultUnitLimit Sample.instruction (some Sample.checkpoint))
        ([] : List Empty) (.ok Sample.envelope) ∧
      ∃ tx, Transaction.parse? Sample.envelope.raw = some tx ∧ tx.FullySigned := by
  have hrun : Run (assemble Sample.key.signer defaultUnitLimit Sample.instruction
      (some Sample.checkpoint)) ([] : List Empty) (.ok Sample.envelope) := Sample.assembled
  obtain ⟨tx, payer, _, _, hparse, -, ⟨-, hpayer⟩, -, -, -, hsigned⟩ :=
    assembled_signed_iff Sample.encode_eq hrun
  exact ⟨Sample.encode_eq, hrun, tx, hparse, hsigned.2 hpayer.symm⟩

end Envelope

/-! ## An instruction of someone else -/

namespace Sample

/-- Someone whose key is not at hand. -/
def stranger : Address := .ofNat 5

/-- The message of the stranger's instruction, with the key as the payer. -/
def foreignMessage : Message :=
  Envelope.message key.address blockhash Envelope.defaultUnitLimit (creation stranger)

/-- The key's signature of that. -/
def foreignSignature : Bytes :=
  Bytes.ofNatLE 32 0xbf1f1c14427f3dccef7923c9f2f94bb4f57eae4b494adc973d4bdd5606236868 ++
    Bytes.ofNatLE 32 0x0aca7d881bcf01b3bfc9a7aed4847cd8774f715cc7ba0c6dffe599a0ae56d740

/-- The transaction that is sent. -/
def foreignTransaction : Transaction := ⟨[foreignSignature], foreignMessage⟩

/-- Its envelope. -/
def foreignEnvelope : Envelope where
  raw := foreignTransaction.bytes
  signature := Base58.encode foreignSignature
  checkpoint

theorem foreign_sign_eq : key.sign foreignMessage.bytes = foreignSignature := by decide +kernel

theorem foreign_verify_eq :
    Crypto.Ed25519.verify key.address.bytes foreignMessage.bytes foreignSignature = true := by
  decide +kernel

theorem foreign_assembled {ε : Type} :
    Run (Envelope.assemble (key.signer : Signer (Behaviour ε)) Envelope.defaultUnitLimit
      (creation stranger) (some checkpoint)) [] (.ok foreignEnvelope) :=
  key.assembled (by decide) rfl foreign_sign_eq rfl foreign_verify_eq

end Sample

/-- The stranger's instruction is not refused. Its envelope has one signature, where two are asked
for. -/
theorem Envelope.unsigned_foreign :
    Instruction.encode Sample.program Sample.stranger (.int 0) .none =
        .ok (Sample.creation Sample.stranger) ∧
      Sample.stranger ≠ Sample.key.address ∧
      Run (assemble Sample.key.signer defaultUnitLimit (Sample.creation Sample.stranger)
        (some Sample.checkpoint)) ([] : List Empty) (.ok Sample.foreignEnvelope) ∧
      Transaction.parse? Sample.foreignEnvelope.raw = some Sample.foreignTransaction ∧
      Sample.foreignTransaction.signatures.length = 1 ∧
      Sample.foreignTransaction.message.header.signers = 2 ∧
      ¬ Sample.foreignTransaction.FullySigned := by
  have hsigner : (Sample.creation Sample.stranger).accounts.filter (·.signer) =
      [.payer Sample.stranger] := rfl
  have hstranger : Sample.stranger ≠ Sample.key.address := by decide
  have hsigners : Sample.foreignTransaction.message.header.signers = _ := message_signers hsigner
  rw [if_neg hstranger] at hsigners
  have hparse : Transaction.parse? Sample.foreignEnvelope.raw = some Sample.foreignTransaction :=
    Transaction.parse?_bytes (signed_encodable rfl (by decide) (by decide))
  refine ⟨Sample.encode_creation _, hstranger, Sample.foreign_assembled, hparse, rfl, hsigners, ?_⟩
  intro hsigned
  exact hstranger ((single_fullySigned_iff hsigner Sample.foreign_verify_eq).1 hsigned)

end StorageAgent
