import StorageAgent.Host
import StorageAgent.Json.Number
import StorageAgent.Submission

/-!
# Confirmation

An envelope is sent, and then the cluster is polled for its status until one
answer decides: the transaction failed, it reached the commitment level, or the
block height passed the last one at which it could land. Polls are `interval`
apart, growing by half up to `cap`, and end after `timeout`; a transaction that
is undecided by then may still land.

A transport error while polling decides nothing, and neither does one while the
height is asked for. Reports show integers in full, however many digits they have.
-/
namespace StorageAgent

/-- How to poll. `rounds` bounds the number of polls, so that polling ends whatever the clock says. -/
structure Polling (τ : Type) where
  timeout : τ
  interval : τ
  cap : τ
  rounds : Nat

namespace Polling

variable {τ : Type} [Seconds τ]

/-- Rounds beyond those that the clock allows, for calls that take no time. -/
def spareRounds : Nat := 1000000

/-- A poll every `interval` and in the end every `cap`, for `timeout` in all. The shorter of the two
tells how many polls there can be. -/
def every (timeout interval cap : τ) : Polling τ :=
  { timeout, interval, cap
    rounds := 2 * Seconds.steps timeout (Seconds.least interval cap) + spareRounds }

def standardTimeout : τ := Seconds.ofRatio 60 1

def standardInterval : τ := Seconds.ofRatio 1 1

def standardCap : τ := Seconds.ofRatio 5 1

def grow (p : Polling τ) (interval : τ) : τ :=
  Seconds.least (Seconds.mul interval (Seconds.ofRatio 3 2)) p.cap

end Polling

namespace Confirmation

variable {m : Type → Type} [Monad m] {τ : Type} [Seconds τ]

def line (level : Log.Level) (message : String) : Log.Line := ⟨level, .confirmation, message⟩

/-- An answer of the cluster, `none` after a transport error, which is reported. -/
def tolerate {α : Type} (host : Host m τ) (describe : TransportFault → String)
    (question : ExceptT Failure m α) : ExceptT Failure m (Option α) :=
  ExceptT.mk do
    match ← question.run with
    | .ok a => return .ok (some a)
    | .error (.client (.transport fault)) =>
      host.log (line .warning (describe fault))
      return .ok none
    -- a refusal of the question is no transport error, so it ends the polling
    | .error failure => return .error failure

/-- The outcome that a status decides, if it decides one. -/
def decided (host : Host m τ) (commitment : Commitment) (signature : Json)
    (status : SignatureStatus) : ExceptT Failure m (Option Outcome) := do
  if status.failed then
    let rejection ←
      (Rejection.ofTransactionError status.err signature .null).mapError Failure.ofPairFault
    host.log (line .info s!"Transaction {signature.display} failed: {rejection.message}")
    return some {
      signature, verdict := .failed, slot := status.slot, errorText := some rejection.message
      rejection := some rejection }
  else if status.reaches commitment then
    host.log (line .info
      s!"Transaction {signature.display} reached {commitment.name} in slot {status.slot.display}")
    return some { signature, verdict := .confirmed, slot := status.slot }
  else return none

/-- Fails if the block height has passed the last one at which the transaction could land. -/
def checkExpiry (host : Host m τ) (ledger : Ledger m) (signature limit : Json) :
    ExceptT Failure m Unit := do
  let answer ← tolerate host (fun fault => "Block height check failed: " ++ fault.message) ledger.height
  match answer with
  | none => return ()
  | some height =>
    -- the status is not asked for again, though the transaction may have landed since
    match height.exceeds? limit with
    | none => throw (Failure.of .wrongKind)
    | some true => throw (.client (.stale (.expired signature limit height)))
    | some false => return ()

/-- One poll: the outcome, if it is decided. Only a status that the cluster does not have raises the
question of expiry. -/
def poll (host : Host m τ) (ledger : Ledger m) (commitment : Commitment) (signature limit : Json) :
    ExceptT Failure m (Option Outcome) := do
  let answer ← tolerate host
    (fun fault => s!"Status poll for {signature.display} failed: {fault.message}. Repolling")
    (ledger.status signature)
  match answer with
  | none => return none
  | some (some status) => decided host commitment signature status
  | some none =>
    -- without a limit a transaction never expires
    if limit.isNull then return none
    checkExpiry host ledger signature limit
    return none

/-- The outcome of a transaction that is undecided in the end. -/
def timedOut (host : Host m τ) (polling : Polling τ) (signature : Json) :
    ExceptT Failure m Outcome := do
  host.log (line .warning
    s!"Transaction {signature.display} not confirmed after {Seconds.fixed 0 polling.timeout}s")
  return { signature, verdict := .unknown, errorText := some "Transaction confirmation timed out" }

/-- Polls until the outcome is decided or the time since `start` is up. -/
def pollFrom (host : Host m τ) (ledger : Ledger m) (commitment : Commitment) (polling : Polling τ)
    (signature limit : Json) (start : τ) : Nat → τ → ExceptT Failure m Outcome
  -- a clock that goes on ends the loop long before (`Polling.every`)
  | 0, _ => do throw (← host.exhausted)
  | rounds + 1, interval => do
    let now ← host.now
    if !Seconds.lt (Seconds.sub now start) polling.timeout then
      timedOut host polling signature
    else
      match ← poll host ledger commitment signature limit with
      | some outcome => return outcome
      | none =>
        -- the poll itself took time
        let now ← host.now
        let remaining := Seconds.sub polling.timeout (Seconds.sub now start)
        if Seconds.le remaining Seconds.zero then timedOut host polling signature
        else
          host.sleep (Seconds.least interval remaining)
          -- the cap is on the intervals that have grown, not on the first one
          pollFrom host ledger commitment polling signature limit start rounds (polling.grow interval)

def await (host : Host m τ) (ledger : Ledger m) (commitment : Commitment) (polling : Polling τ)
    (signature limit : Json) : ExceptT Failure m Outcome := do
  let start ← host.now
  pollFrom host ledger commitment polling signature limit start polling.rounds polling.interval

/-- The signature of an envelope that was sent. A cluster that has already processed it has its
signature. -/
def send (host : Host m τ) (ledger : Ledger m) (envelope : Envelope) : ExceptT Failure m Json :=
  ExceptT.mk do
    match ← (ledger.send envelope.raw).run with
    | .error (.client (.rejected rejection)) =>
      if rejection.alreadyProcessed then
        host.log (line .info
          s!"Transaction {envelope.signature} already processed, polling its status")
        return .ok (.text envelope.signature)
      else return .error (.client (.rejected rejection))
    | result => return result

def isText (value : Json) (s : String) : Bool :=
  match value with
  | .text t => t == s
  | _ => false

def submit (host : Host m τ) (ledger : Ledger m) (commitment : Commitment) (polling : Polling τ)
    (envelope : Envelope) : ExceptT Failure m Outcome := do
  let signature ← send host ledger envelope
  if !isText signature envelope.signature then
    host.log (line .warning
      s!"Node returned signature {signature.display}, expected {envelope.signature}")
  host.log (line .info s!"Sent transaction {signature.display}")
  -- whatever text the node gave is the signature to ask about
  await host ledger commitment polling signature envelope.checkpoint.lastValidHeight

end Confirmation
end StorageAgent
