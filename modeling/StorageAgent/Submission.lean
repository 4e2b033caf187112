import StorageAgent.Envelope
import StorageAgent.Error.Failure

/-!
# Submissions

What the client needs of the cluster, whoever provides it, and what it learns
there about a transaction: how settled it is, its status, and in the end what
became of it. Values that the cluster gives are kept as they are; a missing one
is null.
-/
namespace StorageAgent

/-! ## Commitment levels -/

inductive Commitment where
  | processed
  | confirmed
  | finalized
  deriving DecidableEq, Repr

namespace Commitment

def all : List Commitment := [processed, confirmed, finalized]

/-- The place of a level, weakest first. -/
def rank : Commitment → Nat
  | processed => 0
  | confirmed => 1
  | finalized => 2

def name : Commitment → String
  | processed => "processed"
  | confirmed => "confirmed"
  | finalized => "finalized"

def ofName? (name : String) : Option Commitment := all.find? fun c => c.name == name

/-- The level of a name that has to be one. -/
def parse (name : String) : Except Failure Commitment :=
  match ofName? name with
  | some c => .ok c
  | none => .error (Failure.of .badValue)

end Commitment

/-! ## Signature statuses -/

structure SignatureStatus where
  slot : Json
  confirmations : Json
  confirmationStatus : Json
  err : Json

namespace SignatureStatus

/-- The status in an answer, which has to be an object. -/
def ofJson : Json → Except Failure SignatureStatus
  | .object members =>
    let get := fun name => (Json.member? members name).getD .null
    .ok ⟨get "slot", get "confirmations", get "confirmationStatus", get "err"⟩
  | _ => .error (Failure.of .noMember)

def failed (s : SignatureStatus) : Bool := !s.err.isNull

/-- Whether the transaction has reached a level. Where the level is not told, a transaction without
a count of confirmations is finalized, and one with a count is confirmed. -/
def reaches (s : SignatureStatus) (c : Commitment) : Bool :=
  match s.confirmationStatus with
  | .null => if s.confirmations.isNull then true else decide (c ≠ .finalized)
  | .text name =>
    match Commitment.ofName? name with
    | some level => decide (c.rank ≤ level.rank)
    | none => false
  | _ => false

end SignatureStatus

/-! ## Outcomes -/

inductive Verdict where
  | confirmed
  | failed
  /-- Polling timed out; the transaction may still land. -/
  | unknown
  deriving DecidableEq, Repr

namespace Verdict

def name : Verdict → String
  | confirmed => "confirmed"
  | failed => "failed"
  | unknown => "unknown"

def ofName? (name : String) : Option Verdict :=
  [confirmed, failed, unknown].find? fun v => v.name == name

end Verdict

/-- The outcome of submitting one envelope. A slot that nobody told is null. -/
structure Outcome where
  signature : Json
  verdict : Verdict
  slot : Json := .null
  errorText : Option String := none
  rejection : Option Rejection := none
  attempts : Nat := 1

namespace Outcome

def ok (o : Outcome) : Bool := decide (o.verdict = .confirmed)

/-- The error's words, or others if there are none. -/
def wordsOr (o : Outcome) (default : String) : String :=
  match o.errorText with
  | some text => if text.isEmpty then default else text
  | none => default

/-- The error that an outcome stands for, if it is not a success. -/
def error? (o : Outcome) : Option ClientError :=
  match o.verdict with
  | .confirmed => none
  | .failed =>
    match o.rejection with
    | some rejection => some (.rejected rejection)
    | none =>
      some (.rejected { message := o.wordsOr "transaction failed", signature := o.signature })
  | .unknown => some (.timedOut (o.wordsOr "transaction confirmation timed out") o.signature)

end Outcome

/-! ## The ledger -/

/-- A cluster that can be asked. The signature of a sent transaction and the block height are taken
as the cluster gives them. -/
structure Ledger (m : Type → Type) where
  latestBlockhash : ExceptT Failure m Checkpoint
  send : Bytes → ExceptT Failure m Json
  status : Json → ExceptT Failure m (Option SignatureStatus)
  height : ExceptT Failure m Json
  account : Address → ExceptT Failure m (Option Bytes)

end StorageAgent
