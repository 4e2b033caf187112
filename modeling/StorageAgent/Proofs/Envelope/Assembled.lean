import StorageAgent.Instruction
import StorageAgent.Key
import StorageAgent.Proofs.Behaviour
import StorageAgent.Proofs.Message.Compiled
import StorageAgent.Proofs.Payload.Layout

/-!
# What an assembled envelope says

An envelope is bytes. Whoever reads them by the wire format finds what the instruction said: the
limit of compute units, the program with its accounts and payload, the block hash and the payer.

* `assemble_ok_iff`: how an envelope comes about, whatever the signer does.
* `Instruction.encode_fits`: an encoded instruction uses few accounts and has a short payload.
* `assembled_says`: what the bytes of an envelope are read as.
* `Sample.assembled`: an instruction that a key signs.
-/
namespace StorageAgent

open Behaviour

/-! ## Encoded instructions -/

theorem Address.find_of_search {seeds : List Bytes} {program : Address} {found : Derived}
    (hseeds : checkSeeds (seedCount - 1) seeds = .ok ())
    (h : search seeds program 255 = some found) : find seeds program = .ok found := by
  refine bind_eq_ok_iff.2 ⟨(), hseeds, ?_⟩
  generalize search seeds program 255 = result at h ⊢
  subst h
  rfl

namespace Instruction

variable {program caller : Address} {instruction : Instruction}

/-- How many accounts an opcode works on. -/
def accountCount : Opcode → Nat
  | .initBookkeeper => 4
  | .createClientAccount => 5
  | .deleteClient => 3
  | .sendRequest => 2

theorem length_accountsFor {opcode : Opcode} {accounts : List AccountRef}
    (h : accountsFor program caller opcode = .ok accounts) :
    accounts.length = accountCount opcode := by
  cases opcode with
  | initBookkeeper =>
    obtain ⟨_, -, h⟩ := bind_eq_ok_iff.1 h
    cases h
    rfl
  | createClientAccount =>
    obtain ⟨_, -, h⟩ := bind_eq_ok_iff.1 h
    obtain ⟨_, -, h⟩ := bind_eq_ok_iff.1 h
    cases h
    rfl
  | deleteClient =>
    obtain ⟨_, -, h⟩ := bind_eq_ok_iff.1 h
    obtain ⟨_, -, h⟩ := bind_eq_ok_iff.1 h
    cases h
    rfl
  | sendRequest =>
    obtain ⟨_, -, h⟩ := bind_eq_ok_iff.1 h
    cases h
    rfl

theorem encode_eq_ok_iff {opcode : Argument} {args : Arguments} :
    encode program caller opcode args = .ok instruction ↔
      ∃ o call accounts, opcode.opcode = .ok o ∧ Call.check o args = .ok call ∧
        accountsFor program caller call.opcode = .ok accounts ∧
        instruction = ⟨call.opcode, program, call.payload, accounts⟩ := by
  constructor
  · intro h
    unfold encode at h
    split at h
    · cases h
    · next o ho =>
      split at h
      · cases h
      · next call hcall =>
        unfold ofCall at h
        split at h
        · next accounts haccounts =>
          cases h
          exact ⟨o, call, accounts, ho, hcall, haccounts, rfl⟩
        · cases h
  · rintro ⟨o, call, accounts, ho, hcall, haccounts, rfl⟩
    simp only [encode, ho, hcall, ofCall, haccounts]

/-- The opcode of an encoded instruction is the one that was asked for. -/
theorem encode_opcode {opcode : Argument} {args : Arguments}
    (h : encode program caller opcode args = .ok instruction) :
    opcode.opcode = .ok instruction.opcode := by
  obtain ⟨o, call, accounts, ho, hcall, -, rfl⟩ := encode_eq_ok_iff.1 h
  rw [ho, (Call.check_eq_ok_iff.1 hcall).1]

/-- The opcode of an encoded instruction tells how many accounts it uses and how long its payload
is. -/
theorem encode_sizes {opcode : Argument} {args : Arguments}
    (h : encode program caller opcode args = .ok instruction) :
    instruction.accounts.length = accountCount instruction.opcode ∧
      instruction.payload.length = instruction.opcode.payloadSize := by
  obtain ⟨o, call, accounts, -, -, haccounts, rfl⟩ := encode_eq_ok_iff.1 h
  exact ⟨length_accountsFor haccounts, call.length_payload⟩

/-- An encoded instruction is for the given program, uses at most five accounts, and is at most as
long as a storage request. -/
theorem encode_fits {opcode : Argument} {args : Arguments}
    (h : encode program caller opcode args = .ok instruction) :
    instruction.program = program ∧ instruction.accounts.length ≤ 5 ∧
      instruction.payload.length ≤ Opcode.sendRequest.payloadSize := by
  have hprogram : instruction.program = program := by
    obtain ⟨o, call, accounts, -, -, -, rfl⟩ := encode_eq_ok_iff.1 h
    rfl
  obtain ⟨haccounts, hpayload⟩ := encode_sizes h
  rw [haccounts, hpayload]
  refine ⟨hprogram, ?_, ?_⟩
  · cases instruction.opcode <;> decide
  · cases instruction.opcode <;> decide

end Instruction

namespace Envelope

variable {ε : Type} {signer : Signer (Behaviour ε)} {limit : Int} {instruction : Instruction}
  {checkpoint : Checkpoint} {t : List ε} {envelope : Envelope}

/-! ## Assembling -/

/-- The message that is signed for an instruction. -/
def message (payer : Address) (blockhash : Blockhash) (units : Nat) (instruction : Instruction) :
    Message :=
  Message.compile payer blockhash [.setComputeUnitLimit units, instruction.invocation]

/-- How an envelope comes about: the signer tells the same key twice, and gives a signature of the
message that this key fits. -/
inductive Assembled (signer : Signer (Behaviour ε)) (units : Nat) (instruction : Instruction)
    (checkpoint : Checkpoint) : List ε → Envelope → Prop where
  | mk {payer : Address} {blockhash : Blockhash} {signature : Bytes} {t₁ t₂ t₃ : List ε}
      (hhash : checkpoint.blockhash = some blockhash)
      (hfirst : signer.publicKey t₁ payer) (hsecond : signer.publicKey t₂ payer)
      (hsigned : signer.sign (message payer blockhash units instruction).bytes t₃ (.ok signature))
      (hsize : signature.length = signatureSize)
      (hverified : Crypto.Ed25519.verify payer.bytes
        (message payer blockhash units instruction).bytes signature = true) :
      Assembled signer units instruction checkpoint (t₁ ++ (t₂ ++ t₃)) {
        raw := Transaction.bytes ⟨[signature], message payer blockhash units instruction⟩
        signature := Base58.encode signature
        checkpoint }

theorem signingResult_eq_ok_iff {r : Except Failure Bytes} {signature : Bytes} :
    signingResult r = .ok signature ↔ r = .ok signature := by
  constructor
  · intro h
    unfold signingResult at h
    split at h
    · exact h
    · cases h
    · cases h
  · rintro rfl
    rfl

theorem assemble_ok_iff :
    Run (assemble signer limit instruction (some checkpoint)) t (.ok envelope) ↔
      ∃ units : Nat, limit = units ∧ units ≤ unitLimitMax ∧
        Assembled signer units instruction checkpoint t envelope := by
  constructor
  · intro h
    unfold assemble at h
    -- the checks are taken apart without looking into the signature scheme
    generalize hverify : Crypto.Ed25519.verify = verify at h
    split at h
    · next hsome =>
      cases hsome
      split at h
      · next blockhash hhash =>
        obtain ⟨t₁, payer, _, hfirst, h₁, rfl⟩ := run_lift_bind.1 h
        obtain ⟨hlimit, h₂⟩ := run_check_bind_ok.1 h₁
        obtain ⟨t₂, payer', _, hsecond, h₃, rfl⟩ := run_lift_bind.1 h₂
        obtain ⟨hpayer, h₄⟩ := run_check_bind_ok.1 h₃
        obtain ⟨t₃, signature, _, hanswer, h₅, rfl⟩ := run_bind_ok.1 h₄
        obtain ⟨hsize, h₆⟩ := run_check_bind_ok.1 h₅
        obtain ⟨hverified, h₇⟩ := run_check_bind_ok.1 h₆
        obtain ⟨rfl, he⟩ := run_pure.1 h₇
        cases he
        obtain rfl := Decidable.not_not.1 hpayer
        obtain ⟨answer, hsigned, hresult⟩ := map_iff.1 hanswer
        obtain rfl := signingResult_eq_ok_iff.1 hresult.symm
        have hunits : limit = limit.toNat := by omega
        rw [List.append_nil]
        refine ⟨limit.toNat, hunits, by omega,
          .mk hhash hfirst hsecond hsigned (Decidable.not_not.1 hsize) ?_⟩
        simpa [hverify, message] using hverified
      · cases h.2
    · next hnone => exact absurd rfl (hnone _)
  · rintro ⟨units, rfl, hunits, ⟨hhash, hfirst, hsecond, hsigned, hsize, hverified⟩⟩
    unfold assemble
    generalize Crypto.Ed25519.verify = verify at hverified ⊢
    split
    · next hsome =>
      cases hsome
      rw [hhash]
      refine run_lift_bind.2 ⟨_, _, _, hfirst, ?_, rfl⟩
      refine run_check_bind_ok.2 ⟨by omega, ?_⟩
      refine run_lift_bind.2 ⟨_, _, _, hsecond, ?_, rfl⟩
      refine run_check_bind_ok.2 ⟨fun h => h rfl, ?_⟩
      refine run_bind_ok.2 ⟨_, _, [], map_iff.2 ⟨_, hsigned, rfl⟩, ?_, by simp⟩
      refine run_check_bind_ok.2 ⟨fun h => h hsize, ?_⟩
      refine run_check_bind_ok.2 ⟨?_, run_pure.2 ⟨rfl, rfl⟩⟩
      simpa [message] using hverified
    · next hnone => exact absurd rfl (hnone _)

theorem message_encodable {payer : Address} {blockhash : Blockhash} {units : Nat}
    (haccounts : instruction.accounts.length < 250)
    (hpayload : instruction.payload.length < 0x10000) :
    (message payer blockhash units instruction).Encodable := by
  refine Message.compile_encodable ?_ ?_
  · simp only [Message.uses, Invocation.setComputeUnitLimit, Instruction.invocation,
      List.flatMap_cons, List.flatMap_nil, List.length_cons, List.length_append, List.length_nil]
    omega
  · intro i hi
    simp only [List.mem_cons, List.not_mem_nil, or_false] at hi
    rcases hi with rfl | rfl
    · simp [Invocation.setComputeUnitLimit, Bytes.length_ofNatLE]
    · exact hpayload

/-- A signed message can be written and read back, unless its instruction is very long. -/
theorem signed_encodable {payer : Address} {blockhash : Blockhash} {units : Nat} {signature : Bytes}
    (hsize : signature.length = signatureSize) (haccounts : instruction.accounts.length < 250)
    (hpayload : instruction.payload.length < 0x10000) :
    Transaction.Encodable ⟨[signature], message payer blockhash units instruction⟩ where
  signatures := by simp
  signature := by simpa using hsize
  message := message_encodable haccounts hpayload

/-- Assembling leaves what asking the signer leaves. -/
theorem assemble_leaves {P : ε → Prop} {checkpoint : Option Checkpoint}
    (hkey : ∀ t key, signer.publicKey t key → ∀ e ∈ t, P e)
    (hsign : ∀ m t answer, signer.sign m t answer → ∀ e ∈ t, P e) :
    Leaves P (assemble signer limit instruction checkpoint) := by
  unfold assemble
  generalize Crypto.Ed25519.verify = verify
  split
  · split
    · refine .bind (.lift hkey) fun payer => ?_
      refine .check_bind (.bind (.lift hkey) fun first => ?_)
      refine .check_bind (.bind ?_ fun signature => ?_)
      · intro t r hr
        obtain ⟨answer, hanswer, -⟩ := map_iff.1 hr
        exact hsign _ t answer hanswer
      · exact .check_bind (.check_bind (.pure _))
    · exact .throw _
  · exact .throw _

end Envelope

/-- A key as a signer. -/
def Key.signer {ε : Type} (key : Key) : Signer (Behaviour ε) where
  publicKey := pure key.address
  sign message := pure (.ok (key.sign message))

/-- A key answers by itself. -/
theorem Key.assemble_nil {ε : Type} {key : Key} {limit : Int} {instruction : Instruction}
    {checkpoint : Option Checkpoint} {t : List ε} {r : Except Failure Envelope}
    (h : Run (Envelope.assemble key.signer limit instruction checkpoint) t r) : t = [] := by
  have hsilent : Leaves (fun _ : ε => False)
      (Envelope.assemble key.signer limit instruction checkpoint) := by
    refine Envelope.assemble_leaves ?_ ?_
    · rintro _ _ ⟨rfl, -⟩
      simp
    · rintro _ _ _ ⟨rfl, -⟩
      simp
  exact List.eq_nil_iff_forall_not_mem.2 (hsilent h)

/-- A key signs what it pays for. -/
theorem Key.assembled {ε : Type} {key : Key} {units : Nat} {instruction : Instruction}
    {checkpoint : Checkpoint} {blockhash : Blockhash} {signature : Bytes}
    (hunits : units ≤ Envelope.unitLimitMax) (hhash : checkpoint.blockhash = some blockhash)
    (hsign : key.sign (Envelope.message key.address blockhash units instruction).bytes = signature)
    (hsize : signature.length = signatureSize)
    (hverified : Crypto.Ed25519.verify key.address.bytes
      (Envelope.message key.address blockhash units instruction).bytes signature = true) :
    Run (Envelope.assemble (key.signer : Signer (Behaviour ε)) units instruction (some checkpoint)) []
      (.ok {
        raw := Transaction.bytes
          ⟨[signature], Envelope.message key.address blockhash units instruction⟩
        signature := Base58.encode signature
        checkpoint }) := by
  have hkey : (key.signer : Signer (Behaviour ε)).publicKey [] key.address := ⟨rfl, rfl⟩
  have hsigned : (key.signer : Signer (Behaviour ε)).sign
      (Envelope.message key.address blockhash units instruction).bytes [] (.ok signature) :=
    ⟨rfl, by rw [hsign]⟩
  exact Envelope.assemble_ok_iff.2
    ⟨units, rfl, hunits, .mk hhash hkey hkey hsigned hsize hverified⟩

/-! ## A signed instruction -/

namespace Sample

/-- The key of the seed 0, 1, 2, and so on. -/
def key : Key where
  seed := (List.range 32).map UInt8.ofNat
  size := rfl
  address := .ofNat 0x03a107bff3ce10be1d70dd18e74bc09967e4d6309ba50d5f1ddc8664125531b8
  address_eq := by decide +kernel

/-- A deployment of the agent program. -/
def program : Address := .ofNat 7

/-- Its bookkeeper. -/
def bookkeeper : Address :=
  .ofNat 0x1b92cb7ed7074708e66d3c06dcc80178ca4707a09e2987eef2aaf5c0113965fd

/-- The instruction that creates the bookkeeper. -/
def instruction : Instruction where
  opcode := .initBookkeeper
  program
  payload := [0]
  accounts := [.payer key.address, .owned bookkeeper, .fixed Address.systemProgram,
    .fixed Address.rentSysvar]

/-- A block hash. -/
def blockhash : Blockhash := ⟨List.replicate addressSize 9, rfl⟩

/-- A checkpoint that is valid up to height 100. -/
def checkpoint : Checkpoint := ⟨some blockhash, .int 100⟩

/-- The message that is signed. -/
def message : Message :=
  Envelope.message key.address blockhash Envelope.defaultUnitLimit instruction

/-- Its signature. -/
def signature : Bytes :=
  Bytes.ofNatLE 32 0x661a20c8ba35db486e135c056ef0b9587d0c5fcd3add7d84994ca5de3433958b ++
    Bytes.ofNatLE 32 0x082df2ecae168cda84b4eb15ae2cbe8e6aa3c5df79645602bf8a7d295896ade6

/-- The signed instruction. -/
def envelope : Envelope where
  raw := Transaction.bytes ⟨[signature], message⟩
  signature := Base58.encode signature
  checkpoint

theorem search_eq :
    Address.search [Address.bookkeeperSeed] program 255 = some ⟨bookkeeper, 254⟩ := by
  decide +kernel

/-- The instruction by which a caller creates the bookkeeper. -/
def creation (caller : Address) : Instruction where
  opcode := .initBookkeeper
  program
  payload := [0]
  accounts := [.payer caller, .owned bookkeeper, .fixed Address.systemProgram,
    .fixed Address.rentSysvar]

theorem encode_creation (caller : Address) :
    Instruction.encode program caller (.int 0) .none = .ok (creation caller) := by
  have hseeds : Address.checkSeeds (Address.seedCount - 1) [Address.bookkeeperSeed] = .ok () := rfl
  have hbookkeeper : Address.bookkeeper program = .ok ⟨bookkeeper, 254⟩ :=
    Address.find_of_search hseeds search_eq
  have haccounts : Instruction.accountsFor program caller .initBookkeeper =
      .ok (creation caller).accounts := by
    rw [Instruction.accountsFor, hbookkeeper]
    rfl
  exact Instruction.encode_eq_ok_iff.2
    ⟨.initBookkeeper, .initBookkeeper, _, rfl, rfl, haccounts, rfl⟩

theorem encode_eq :
    Instruction.encode program key.address (.int 0) .none = .ok instruction :=
  encode_creation key.address

theorem sign_eq : key.sign message.bytes = signature := by decide +kernel

theorem verify_eq : Crypto.Ed25519.verify key.address.bytes message.bytes signature = true := by
  decide +kernel

theorem assembled {ε : Type} :
    Run (Envelope.assemble (key.signer : Signer (Behaviour ε)) Envelope.defaultUnitLimit instruction
      (some checkpoint)) [] (.ok envelope) :=
  key.assembled (by decide) rfl sign_eq rfl verify_eq

end Sample

/-! ## Reading an envelope -/

namespace Envelope

variable {ε : Type} {signer : Signer (Behaviour ε)} {limit : Int} {instruction : Instruction}
  {checkpoint : Checkpoint} {t : List ε} {envelope : Envelope}

theorem assembled_says {program caller : Address} {opcode : Argument} {args : Arguments}
    (hencode : Instruction.encode program caller opcode args = .ok instruction)
    (hcaller : ∀ t key, signer.publicKey t key → key = caller)
    (h : Run (assemble signer limit instruction (some checkpoint)) t (.ok envelope)) :
    ∃ tx blockhash, ∃ units : Nat,
      Transaction.parse? envelope.raw = some tx ∧
      tx.signatures.map Base58.encode = [envelope.signature] ∧
      checkpoint.blockhash = some blockhash ∧ limit = units ∧ units ≤ unitLimitMax ∧
      tx.message.Says caller blockhash
        [⟨Address.computeBudgetProgram, [], 2 :: Bytes.ofNatLE 4 units⟩,
          ⟨program, instruction.accounts, instruction.payload⟩] := by
  obtain ⟨units, hlimit, hunits, hassembled⟩ := assemble_ok_iff.1 h
  obtain ⟨rfl, haccounts, hpayload⟩ := Instruction.encode_fits hencode
  cases hassembled with
  | @mk payer blockhash signature _ _ _ hhash hfirst _ _ hsize _ =>
    obtain rfl := hcaller _ _ hfirst
    have hshort : instruction.payload.length < 0x10000 := Nat.lt_of_le_of_lt hpayload (by decide)
    have hfew : instruction.accounts.length < 250 := by omega
    exact ⟨_, blockhash, units, Transaction.parse?_bytes (signed_encodable hsize hfew hshort), rfl,
      hhash, hlimit, hunits, Message.compile_says⟩

/-- The bookkeeper's creation, signed by a key, is read back as that. -/
theorem assembled_says_creation :
    Instruction.encode Sample.program Sample.key.address (.int 0) .none = .ok Sample.instruction ∧
      Run (assemble Sample.key.signer defaultUnitLimit Sample.instruction (some Sample.checkpoint))
        ([] : List Empty) (.ok Sample.envelope) ∧
      ∃ tx blockhash, ∃ units : Nat,
        Transaction.parse? Sample.envelope.raw = some tx ∧
        tx.signatures.map Base58.encode = [Sample.envelope.signature] ∧
        Sample.checkpoint.blockhash = some blockhash ∧
        (defaultUnitLimit : Int) = units ∧ units ≤ unitLimitMax ∧
        tx.message.Says Sample.key.address blockhash
          [⟨Address.computeBudgetProgram, [], 2 :: Bytes.ofNatLE 4 units⟩,
            ⟨Sample.program, Sample.instruction.accounts, Sample.instruction.payload⟩] := by
  have hcaller : ∀ (t : List Empty) key, Sample.key.signer.publicKey t key →
      key = Sample.key.address := fun _ _ h => h.2
  exact ⟨Sample.encode_eq, Sample.assembled,
    assembled_says Sample.encode_eq hcaller Sample.assembled⟩

end Envelope
end StorageAgent
