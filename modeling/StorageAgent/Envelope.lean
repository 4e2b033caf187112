import StorageAgent.Error.Failure
import StorageAgent.Transaction

/-!
# Envelopes

A signed transaction that is ready to be sent. It holds two instructions: the
compute unit limit, then the instruction for the agent program. The signer pays
the fee and is the only one who signs.

The signer is asked, not trusted: its key is read again for the message and has
to be the payer read before, and its signature has to verify.
-/
namespace StorageAgent

/-- A recent block hash to stamp a transaction with, and the last block height at which it is
valid, null if nobody said. -/
structure Checkpoint where
  blockhash : Option Blockhash
  lastValidHeight : Json

/-- A signed and serialised transaction. -/
structure Envelope where
  raw : Bytes
  signature : String
  checkpoint : Checkpoint

/-- Someone who signs. Both answers may depend on what was asked before. -/
structure Signer (m : Type → Type) where
  publicKey : m Address
  sign : Bytes → m (Except Failure Bytes)

/-- What became of a request to sign: whatever goes wrong inside the signer is an error of signing. It
is taken for granted that the signer's own failure can be shown as text. -/
def signingResult : Except Failure Bytes → Except Failure Bytes
  | .ok signature => .ok signature
  | .error (.client (.signing fault)) => .error (.client (.signing fault))
  | .error failure => .error (.client (.signing (.providerFailed failure.message)))

namespace Envelope

def defaultUnitLimit : Nat := 600000

/-- The greatest compute unit limit that can be written. -/
def unitLimitMax : Nat := 4294967295

def refuse {m : Type → Type} [Monad m] {α : Type} (fault : SigningFault) : ExceptT Failure m α :=
  throw (.client (.signing fault))

/-- The envelope of an instruction, stamped with a checkpoint. -/
def assemble {m : Type → Type} [Monad m] (signer : Signer m) (unitLimit : Int)
    (instruction : Instruction) (checkpoint : Option Checkpoint) : ExceptT Failure m Envelope := do
  let some checkpoint := checkpoint | throw (.client (.stale .noCheckpoint))
  let some blockhash := checkpoint.blockhash | throw (.client (.stale .noCheckpoint))
  let payer ← signer.publicKey
  -- the limit is written before the accounts are numbered
  if unitLimit < 0 ∨ (unitLimitMax : Int) < unitLimit then throw (Failure.of .overflow)
  -- the key is read a second time, and may be another one by then
  let first ← signer.publicKey
  let message := Message.compile first blockhash
    [.setComputeUnitLimit unitLimit.toNat, instruction.invocation]
  if first ≠ payer then refuse (.wrongPayer first payer)
  let signature ← ExceptT.mk (signingResult <$> signer.sign message.bytes)
  if signature.length ≠ signatureSize then refuse (.signatureSize signature.length)
  if !Crypto.Ed25519.verify payer.bytes message.bytes signature then refuse (.unverified payer)
  return {
    raw := Transaction.bytes ⟨[signature], message⟩
    signature := Base58.encode signature
    checkpoint }

def base64 (e : Envelope) : String := Base64.encode e.raw

def summary (instruction : Instruction) (e : Envelope) : String :=
  let blockhash :=
    match e.checkpoint.blockhash with
    | some h => h.text
    | none => "None"
  s!"Assembled {instruction.opcode.name} tx {e.signature} ({e.raw.length} bytes, blockhash {blockhash})"

end Envelope
end StorageAgent
