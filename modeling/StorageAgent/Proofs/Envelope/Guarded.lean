import StorageAgent.Proofs.Envelope.Assembled

/-!
# What a signer can bring about

A signer may tell another key whenever it is asked, give any bytes as a signature, and fail in any
way. Every run that assembles an envelope ends in one of a few ways all the same.

* `assemble_unstamped`, `assemble_stamped`: the ways in which a run ends.
* `assemble_total`: a run gets to one of them if the signer answers.
* `assemble_vouched`: an envelope is no more than what the signer signed.
* `assemble_guarded`: a stale checkpoint is told before the signer is asked, everything else that
  goes wrong is an error of signing, and an envelope holds a signature that verifies.
-/
namespace StorageAgent

open Behaviour

/-- A signer answers whatever it is asked, in some way. -/
structure Signer.Answers {ε : Type} (signer : Signer (Behaviour ε)) : Prop where
  publicKey : ∃ t key, signer.publicKey t key
  sign : ∀ message, ∃ t answer, signer.sign message t answer

/-- Whatever goes wrong inside a signer is an error of signing. -/
theorem Envelope.signingResult_error {r : Except Failure Bytes} {f : Failure}
    (h : signingResult r = .error f) : ∃ fault, f = .client (.signing fault) := by
  unfold signingResult at h
  split at h
  · cases h
  · next fault =>
    cases h
    exact ⟨fault, rfl⟩
  · next failure _ =>
    cases h
    exact ⟨.providerFailed failure.message, rfl⟩

/-- The block hash that a transaction would be stamped with. -/
def Checkpoint.stamp (checkpoint : Option Checkpoint) : Option Blockhash :=
  checkpoint.bind (·.blockhash)

theorem Checkpoint.stamp_eq_none {checkpoint : Option Checkpoint} (h : stamp checkpoint = none) :
    checkpoint = none ∨ ∃ height, checkpoint = some ⟨none, height⟩ := by
  cases checkpoint with
  | none => exact .inl rfl
  | some c =>
    obtain ⟨blockhash, height⟩ := c
    cases blockhash with
    | none => exact .inr ⟨height, rfl⟩
    | some blockhash => cases h

theorem Checkpoint.stamp_eq_some {checkpoint : Option Checkpoint} {blockhash : Blockhash}
    (h : stamp checkpoint = some blockhash) : ∃ height, checkpoint = some ⟨some blockhash, height⟩ := by
  cases checkpoint with
  | none => cases h
  | some c =>
    obtain ⟨stored, height⟩ := c
    cases h
    exact ⟨height, rfl⟩

namespace Envelope

variable {ε : Type} {signer : Signer (Behaviour ε)} {limit : Int} {units : Nat}
  {instruction : Instruction} {checkpoint : Option Checkpoint} {t : List ε}
  {r : Except Failure Envelope}

/-! ## The ends of a run -/

/-- Without a block hash nothing is asked. -/
theorem assemble_unstamped (h : Checkpoint.stamp checkpoint = none) :
    Run (assemble signer limit instruction checkpoint) t r ↔
      t = [] ∧ r = .error (.client (.stale .noCheckpoint)) := by
  rcases Checkpoint.stamp_eq_none h with rfl | ⟨height, rfl⟩
  · exact run_throw
  · exact run_throw

/-- With a block hash and a limit that can be written, the run ends in an error of signing or in an
envelope. -/
theorem assemble_stamped {blockhash : Blockhash} {height : Json} (hunits : units ≤ unitLimitMax)
    (h : Run (assemble signer units instruction (some ⟨some blockhash, height⟩)) t r) :
    (∃ fault, r = .error (.client (.signing fault))) ∨ ∃ envelope, r = .ok envelope := by
  unfold assemble at h
  generalize Crypto.Ed25519.verify = verify at h
  obtain ⟨t₁, payer, _, -, h₁, rfl⟩ := run_lift_bind.1 h
  rcases run_check_bind.1 h₁ with ⟨hlimit, -, -⟩ | ⟨-, h₂⟩
  · omega
  obtain ⟨t₂, first, _, -, h₃, rfl⟩ := run_lift_bind.1 h₂
  rcases run_check_bind.1 h₃ with ⟨-, -, rfl⟩ | ⟨-, h₄⟩
  · exact .inl ⟨_, rfl⟩
  rcases run_bind.1 h₄ with ⟨t₃, signature, _, -, h₅, rfl⟩ | ⟨f, hanswer, rfl⟩
  · rcases run_check_bind.1 h₅ with ⟨-, -, rfl⟩ | ⟨-, h₆⟩
    · exact .inl ⟨_, rfl⟩
    rcases run_check_bind.1 h₆ with ⟨-, -, rfl⟩ | ⟨-, h₇⟩
    · exact .inl ⟨_, rfl⟩
    obtain ⟨-, rfl⟩ := run_pure.1 h₇
    exact .inr ⟨_, rfl⟩
  · obtain ⟨answer, -, hanswer⟩ := map_iff.1 hanswer
    obtain ⟨fault, rfl⟩ := signingResult_error hanswer.symm
    exact .inl ⟨fault, rfl⟩

theorem assemble_total (hanswers : signer.Answers) :
    Ends (assemble signer limit instruction checkpoint) := by
  unfold assemble
  generalize Crypto.Ed25519.verify = verify
  split
  · split
    · refine .bind (.lift hanswers.publicKey) fun payer => ?_
      refine .check_bind (.bind (.lift hanswers.publicKey) fun first => ?_)
      refine .check_bind (.bind ?_ fun signature => ?_)
      · obtain ⟨t, answer, hanswer⟩ := hanswers.sign
          (Message.compile first _ [.setComputeUnitLimit limit.toNat, instruction.invocation]).bytes
        exact ⟨t, signingResult answer, map_iff.2 ⟨answer, hanswer, rfl⟩⟩
      · exact .check_bind (.check_bind (.pure _))
    · exact .throw _
  · exact .throw _

/-! ## What is in an envelope -/

/-- An envelope holds a message and one signature, which the signer gave when it was asked to sign
the bytes of this message. The first key of the message is the key that the signer told first, and
the signature verifies under it. -/
inductive Vouched (signer : Signer (Behaviour ε)) : List ε → Envelope → Prop where
  | mk {payer : Address} {message signature : Bytes} {m : Message} {checkpoint : Checkpoint}
      {t₁ t₂ t₃ : List ε} (hfirst : signer.publicKey t₁ payer)
      (hsecond : signer.publicKey t₂ payer)
      (hsigned : signer.sign message t₃ (.ok signature)) (hsize : signature.length = signatureSize)
      (hread : Message.read? message = some (m, [])) (hpayer : m.keys.head? = some payer)
      (hverified : Crypto.Ed25519.verify payer.bytes message signature = true) :
      Vouched signer (t₁ ++ (t₂ ++ t₃)) {
        raw := 1 :: (signature ++ message)
        signature := Base58.encode signature
        checkpoint }

theorem bytes_of_single (signature : Bytes) (m : Message) :
    Transaction.bytes ⟨[signature], m⟩ = 1 :: (signature ++ m.bytes) := by
  simp [Transaction.bytes, compactLength]

/-- An envelope is no more than what the signer signed. -/
theorem assemble_vouched {checkpoint : Checkpoint} {envelope : Envelope}
    (haccounts : instruction.accounts.length < 250) (hpayload : instruction.payload.length < 0x10000)
    (h : Run (assemble signer limit instruction (some checkpoint)) t (.ok envelope)) :
    envelope.checkpoint = checkpoint ∧ Vouched signer t envelope := by
  obtain ⟨units, -, -, hassembled⟩ := assemble_ok_iff.1 h
  cases hassembled with
  | @mk payer blockhash signature _ _ _ _ hfirst hsecond hsigned hsize hverified =>
    have hencodable : (message payer blockhash units instruction).Encodable :=
      message_encodable haccounts hpayload
    have hread := Message.read?_bytes hencodable []
    rw [List.append_nil] at hread
    refine ⟨rfl, ?_⟩
    rw [bytes_of_single]
    exact .mk hfirst hsecond hsigned hsize hread rfl hverified

/-! ## Whatever the signer does -/

theorem assemble_guarded {program caller : Address} {opcode : Argument} {args : Arguments}
    (hencode : Instruction.encode program caller opcode args = .ok instruction)
    (hunits : units ≤ unitLimitMax) :
    (signer.Answers → Ends (assemble signer units instruction checkpoint)) ∧
      ∀ t r, Run (assemble signer units instruction checkpoint) t r →
        ((∃ fault, r = .error (.client (.stale fault))) ↔ Checkpoint.stamp checkpoint = none) ∧
        -- a signer that never answers has this run too
        (Checkpoint.stamp checkpoint = none → t = [] ∧ ∀ silent : Signer (Behaviour ε),
          Run (assemble silent units instruction checkpoint) t r) ∧
        (Checkpoint.stamp checkpoint ≠ none →
          (∃ fault, r = .error (.client (.signing fault))) ∨
            ∃ envelope, r = .ok envelope ∧ checkpoint = some envelope.checkpoint ∧
              Vouched signer t envelope) := by
  refine ⟨assemble_total, fun t r h => ?_⟩
  cases hstamp : Checkpoint.stamp checkpoint with
  | none =>
    obtain ⟨rfl, rfl⟩ := (assemble_unstamped hstamp).1 h
    refine ⟨iff_of_true ⟨_, rfl⟩ rfl, fun _ => ⟨rfl, fun silent => ?_⟩, fun hne => absurd rfl hne⟩
    exact (assemble_unstamped hstamp).2 ⟨rfl, rfl⟩
  | some blockhash =>
    obtain ⟨height, rfl⟩ := Checkpoint.stamp_eq_some hstamp
    obtain ⟨-, haccounts, hpayload⟩ := Instruction.encode_fits hencode
    have hfew : instruction.accounts.length < 250 := by omega
    have hshort : instruction.payload.length < 0x10000 := Nat.lt_of_le_of_lt hpayload (by decide)
    rcases assemble_stamped hunits h with ⟨fault, rfl⟩ | ⟨envelope, rfl⟩
    · exact ⟨iff_of_false (by simp) (by simp), nofun, fun _ => .inl ⟨fault, rfl⟩⟩
    · obtain ⟨hcheckpoint, hvouched⟩ := assemble_vouched hfew hshort h
      refine ⟨iff_of_false (by simp) (by simp), nofun, fun _ => .inr ⟨envelope, rfl, ?_, hvouched⟩⟩
      rw [hcheckpoint]

/-- The bookkeeper's creation holds what its key signed. -/
theorem assemble_guarded_creation :
    Instruction.encode Sample.program Sample.key.address (.int 0) .none = .ok Sample.instruction ∧
      defaultUnitLimit ≤ unitLimitMax ∧
      Run (assemble Sample.key.signer defaultUnitLimit Sample.instruction (some Sample.checkpoint))
        ([] : List Empty) (.ok Sample.envelope) ∧
      Vouched Sample.key.signer ([] : List Empty) Sample.envelope := by
  have hunits : defaultUnitLimit ≤ unitLimitMax := by decide
  have hrun : Run (assemble Sample.key.signer defaultUnitLimit Sample.instruction
      (some Sample.checkpoint)) ([] : List Empty) (.ok Sample.envelope) := Sample.assembled
  obtain ⟨-, -, hstamped⟩ := (assemble_guarded Sample.encode_eq hunits).2 _ _ hrun
  rcases hstamped nofun with ⟨fault, hr⟩ | ⟨envelope, hr, -, hvouched⟩
  · cases hr
  · cases hr
    exact ⟨Sample.encode_eq, hunits, hrun, hvouched⟩

end Envelope
end StorageAgent
