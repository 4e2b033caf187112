import StorageAgent.Json.Basic
import StorageAgent.Text.Basic

/-!
# Rejections

The network or the program refused a transaction. A rejection keeps the value
that the cluster gave as the reason, and what was read out of it: a transaction
error is a text such as `"AccountInUse"`, or an object with the member
`InstructionError`, a pair of the instruction's index and either a text or an
object with the member `Custom`, a code of the agent program.
-/
namespace StorageAgent

/-! ## Errors of the agent program -/

/-- The custom errors of the agent program. -/
inductive ProgramError where
  | invalidInstruction
  | invalidInstructionData
  | noAvailableClients
  | overflow
  | unregisteredClient
  | invalidName
  | invalidAccount
  | invalidClientId
  | invalidFileId
  | invalidPosition
  | clientMismatch
  deriving DecidableEq, Repr

namespace ProgramError

def all : List ProgramError :=
  [invalidInstruction, invalidInstructionData, noAvailableClients, overflow, unregisteredClient,
    invalidName, invalidAccount, invalidClientId, invalidFileId, invalidPosition, clientMismatch]

def code : ProgramError → Nat
  | invalidInstruction => 0
  | invalidInstructionData => 1
  | noAvailableClients => 2
  | overflow => 3
  | unregisteredClient => 4
  | invalidName => 5
  | invalidAccount => 6
  | invalidClientId => 7
  | invalidFileId => 8
  | invalidPosition => 9
  | clientMismatch => 10

def name : ProgramError → String
  | invalidInstruction => "INVALID_INSTRUCTION"
  | invalidInstructionData => "INVALID_INSTRUCTION_DATA"
  | noAvailableClients => "NO_AVAILABLE_CLIENTS"
  | overflow => "OVERFLOW"
  | unregisteredClient => "UNREGISTERED_CLIENT"
  | invalidName => "INVALID_NAME"
  | invalidAccount => "INVALID_ACCOUNT"
  | invalidClientId => "INVALID_CLIENT_ID"
  | invalidFileId => "INVALID_FILE_ID"
  | invalidPosition => "INVALID_POSITION"
  | clientMismatch => "CLIENT_MISMATCH"

def message : ProgramError → String
  | invalidInstruction => "Instruction is not valid"
  | invalidInstructionData => "instruction_data is invalid"
  | noAvailableClients => "client limit reached"
  | overflow => "numbers overflow"
  | unregisteredClient => "client is not registered"
  | invalidName => "name is not valid"
  | invalidAccount => "account is not valid"
  | invalidClientId => "client is not valid"
  | invalidFileId => "file id is not valid"
  | invalidPosition => "provided position is not valid"
  | clientMismatch => "client id mismatch"

def ofNumber? (n : Int) : Option ProgramError := all.find? fun e => decide ((e.code : Int) = n)

/-- The error that a JSON value equals. A truth value counts as 0 or 1. -/
def ofJson? : Json → Option ProgramError
  | .bool b => ofNumber? (if b then 1 else 0)
  | .int n => ofNumber? n
  | .float x => (Decimal.integer? x).bind ofNumber?
  | _ => none

end ProgramError

/-- Why the value beside `InstructionError` is no pair. -/
inductive PairFault where
  /-- It has no parts at all. -/
  | notMany
  /-- It has fewer or more than two parts. -/
  | notTwo
  deriving DecidableEq, Repr

/-- The parts of a pair: of a list its items, of a text its characters, of an object its names. -/
def Json.pair : Json → Except PairFault (Json × Json)
  | .list [a, b] => .ok (a, b)
  | .list _ => .error .notTwo
  | .text s =>
    match s.toList with
    | [a, b] => .ok (.text (String.singleton a), .text (String.singleton b))
    | _ => .error .notTwo
  | .object [a, b] => .ok (.text a.1, .text b.1)
  | .object _ => .error .notTwo
  | _ => .error .notMany

/-- What a transaction error says: the instruction's index, null if there is none; the program's
error, if it is one; and words. -/
structure TransactionError where
  index : Json
  programError : Option ProgramError
  detail : String

/-- The index, code and words of an instruction's error. -/
def TransactionError.ofInstruction (index inner : Json) : TransactionError :=
  match inner with
  | .object members =>
    match Json.member? members "Custom" with
    | some code =>
      -- a code of another program keeps its number
      match ProgramError.ofJson? code with
      | some e => ⟨index, some e, e.message⟩
      | none => ⟨index, none, "custom program error " ++ code.display⟩
    | none => ⟨index, none, inner.display⟩
  | _ => ⟨index, none, inner.display⟩

def TransactionError.ofJson (err : Json) : Except PairFault TransactionError :=
  match err with
  | .object members =>
    match Json.member? members "InstructionError" with
    | some value => value.pair.map fun (index, inner) => .ofInstruction index inner
    | none => .ok ⟨.null, none, err.display⟩
  | _ => .ok ⟨.null, none, err.display⟩

/-! ## Rejections -/

/-- A refused transaction. A missing reason, index or signature is null. -/
structure Rejection where
  message : String
  reason : Json := .null
  instructionIndex : Json := .null
  programError : Option ProgramError := none
  signature : Json := .null
  logs : Json := .list []

namespace Rejection

/-- Whether the cluster says that it has already seen this very transaction. -/
def alreadyProcessed (r : Rejection) : Bool :=
  (match r.reason with
    | .text s => s == "AlreadyProcessed"
    | _ => false) ||
  Text.contains (Text.lower r.message) "already been processed"

def ofTransactionError (err signature logs : Json) : Except PairFault Rejection := do
  let e ← TransactionError.ofJson err
  let what :=
    match e.programError with
    | some p => s!"program error {p.code}: {p.message}"
    | none => "transaction failed: " ++ e.detail
  return {
    message := if e.index.isNull then what else "instruction " ++ e.index.display ++ " " ++ what
    reason := err
    instructionIndex := e.index
    programError := e.programError
    signature
    logs := if logs.isTruthy then logs else .list [] }

end Rejection

end StorageAgent
