import StorageAgent.Account
import StorageAgent.Confirmation
import StorageAgent.Key
import StorageAgent.Payload.Conversion

/-!
# The client

Operations of one caller on one deployment of the agent program. An operation
is signed, submitted and confirmed before the next one begins. If its block hash
went stale it is signed again with a fresh one, at most `staleRetries` times; no
other failure is retried here.
-/
namespace StorageAgent

/-- A client: its key, the program it talks to, and how it submits. -/
structure Client (τ : Type) where
  key : Key
  program : Address
  unitLimit : Int
  commitment : Commitment
  polling : Polling τ
  staleRetries : Nat
  /-- No byte string is as long as this. -/
  memory : Nat

namespace Client

variable {m : Type → Type} [Monad m] {τ : Type} [Seconds τ]

def caller (c : Client τ) : Address := c.key.address

def signer (c : Client τ) : Signer m where
  publicKey := pure c.key.address
  sign message := pure (.ok (c.key.sign message))

def bookkeeperAddress (c : Client τ) : Except Failure Address.Derived :=
  (Address.bookkeeper c.program).mapError Failure.derivation

def requestAddress (c : Client τ) : Except Failure Address.Derived :=
  (Address.requestAccount c.program c.caller).mapError Failure.derivation

/-! ## Operations -/

/-- One attempt: a fresh block hash, a signature, and the outcome of submitting. -/
def attempt (host : Host m τ) (ledger : Ledger m) (c : Client τ) (instruction : Instruction) :
    ExceptT Failure m Outcome := do
  let checkpoint ← ledger.latestBlockhash
  let envelope ← Envelope.assemble c.signer c.unitLimit instruction (some checkpoint)
  host.log ⟨.debug, .envelope, envelope.summary instruction⟩
  Confirmation.submit host ledger c.commitment c.polling envelope

/-- Attempts until one ends in anything but a stale checkpoint, or `left` are used up. The next one
has number `n`, and `last` is the fault of the one before. -/
def attempts (host : Host m τ) (ledger : Ledger m) (c : Client τ) (instruction : Instruction) :
    Nat → Nat → StaleFault → ExceptT Failure m Outcome
  | 0, _, last => throw (.client (.stale last))
  | left + 1, n, _ => ExceptT.mk do
    match ← (attempt host ledger c instruction).run with
    | .ok outcome => return .ok { outcome with attempts := n }
    | .error (.client (.stale fault)) =>
      host.log ⟨.warning, .client,
        s!"{instruction.opcode.name}: no usable blockhash (attempt {n}/{c.staleRetries + 1}): {fault.message}"⟩
      (attempts host ledger c instruction left (n + 1) fault).run
    -- after any other failure the transaction may still land, so it is not signed again
    | .error failure => return .error failure

/-- Signs, submits and confirms an instruction, alone and under its name in the log. -/
def execute (host : Host m τ) (ledger : Ledger m) (c : Client τ) (instruction : Instruction) :
    ExceptT Failure m Outcome :=
  ExceptT.mk do
    host.acquire
    host.setContext (some ⟨instruction.opcode.name, c.caller.text⟩)
    let result ← (attempts host ledger c instruction (c.staleRetries + 1) 1 .noAttempt).run
    host.setContext none
    host.release
    return result

def perform (host : Host m τ) (ledger : Ledger m) (c : Client τ)
    (instruction : Except ClientError Instruction) : ExceptT Failure m Outcome := do
  let instruction ← instruction.mapError Failure.client
  execute host ledger c instruction

/-- Creates the program's bookkeeper, once per deployment. -/
def initBookkeeper (host : Host m τ) (ledger : Ledger m) (c : Client τ) :
    ExceptT Failure m Outcome :=
  perform host ledger c (Instruction.initBookkeeper c.program c.caller)

def registerClient (host : Host m τ) (ledger : Ledger m) (c : Client τ) :
    ExceptT Failure m Outcome :=
  perform host ledger c (Instruction.createClientAccount c.program c.caller)

def removeClient (host : Host m τ) (ledger : Ledger m) (c : Client τ) (clientId : Argument) :
    ExceptT Failure m Outcome :=
  perform host ledger c (Instruction.deleteClient c.program c.caller clientId)

/-- Asks the storage for something. Name and data are converted to bytes first. -/
def sendRequest (host : Host m τ) (ledger : Ledger m) (c : Client τ) (draft : Draft) :
    ExceptT Failure m Outcome := do
  -- what has no bytes fails here, before any field is checked
  let name ← draft.name.convertText c.memory
  let data ← draft.data.convertText c.memory
  perform host ledger c
    (Instruction.sendRequest c.program c.caller { draft with name, data })

/-! ## Reading accounts -/

/-- The program's registry, if it exists. -/
def fetchBookkeeper (ledger : Ledger m) (c : Client τ) : ExceptT Failure m (Option Bookkeeper) := do
  let derived ← c.bookkeeperAddress
  match ← ledger.account derived.address with
  | none => return none
  | some raw =>
    let bookkeeper ← (Bookkeeper.parse raw).mapError Failure.input
    return some bookkeeper

def fetchRequest (ledger : Ledger m) (c : Client τ) : ExceptT Failure m (Option RequestRecord) := do
  let derived ← c.requestAddress
  match ← ledger.account derived.address with
  | none => return none
  | some raw =>
    let record ← (RequestRecord.parse raw).mapError Failure.input
    return some record

end Client
end StorageAgent
