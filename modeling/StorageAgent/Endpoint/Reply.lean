import StorageAgent.Error.Failure
import StorageAgent.Json.Reader
import StorageAgent.Json.Number
import StorageAgent.Submission
import StorageAgent.Text.Basic

/-!
# Replies

An exchange with the endpoint ends in an HTTP response or in no response at
all. `Reply.result` reads it as a JSON-RPC answer. What may pass by itself is a
transport error: no response, status 429 or 500 and above, a body that is no
JSON, and the error code of a node that is behind. An error about the block hash
is a stale checkpoint, any other error a rejection.
-/
namespace StorageAgent

structure RpcRequest where
  id : Nat
  method : String
  params : List Json

def RpcRequest.body (r : RpcRequest) : Json :=
  .object [("jsonrpc", .text "2.0"), ("id", .int r.id), ("method", .text r.method),
    ("params", .list r.params)]

/-- How an exchange ended. -/
inductive Reply where
  | response (status : Int) (body : Bytes)
  /-- The connection failed; `kind` names the failure. -/
  | unreachable (kind message : String)
  /-- The exchange failed in a way that trying again does not mend. -/
  | broken (failure : Failure)

def Reply.isResponse : Reply → Bool
  | response .. => true
  | _ => false

/-- The error code of a node that is behind. -/
def unhealthyCode : Int := -32005

/-- Words in an error message that tell of an unusable block hash. -/
def staleMarkers : List String := ["blockhash not found", "blockhashnotfound"]

/-- Whether an error code is that of a node that is behind. Codes are looked up in a set, which
lists and objects cannot be. -/
def isUnhealthy : Json → Except Failure Bool
  | .int n => .ok (n == unhealthyCode)
  | .float x => .ok (Decimal.integer? x == some unhealthyCode)
  | .list _ => .error (Failure.of .wrongKind)
  | .object _ => .error (Failure.of .wrongKind)
  | _ => .ok false

/-- The members of an object; nothing else has members. -/
def Json.membersOf : Json → Except Failure (List (String × Json))
  | .object members => .ok members
  | _ => .error (Failure.of .noMember)

def Json.memberOr (members : List (String × Json)) (name : String) : Json :=
  (Json.member? members name).getD .null

def isStaleMessage (message : String) : Bool :=
  staleMarkers.any fun marker => Text.contains (Text.lower message) marker

/-- The failure that the error of a JSON-RPC answer stands for. -/
def rpcFailure (method : String) (error : Json) : Failure :=
  let read : Except Failure Failure := do
    let members ← error.membersOf
    let code := Json.memberOr members "code"
    let message := ((Json.member? members "message").getD error).display
    let (cause, logs) :=
      match Json.memberOr members "data" with
      | .object data => (Json.memberOr data "err", Json.memberOr data "logs")
      | _ => (.null, .null)
    let named :=
      match cause with
      | .text s => s == "BlockhashNotFound"
      | _ => false
    -- the block hash comes first, whatever else the error says
    if named || isStaleMessage message then return .client (.stale (.refused method message))
    if !cause.isNull then
      let rejection ← (Rejection.ofTransactionError cause .null logs).mapError Failure.ofPairFault
      return .client (.rejected rejection)
    if ← isUnhealthy code then return .client (.transport (.nodeUnhealthy method code message))
    return .client (.rejected {
      message := method ++ ": RPC error " ++ code.display ++ ": " ++ message, reason := error })
  -- what goes wrong while an error is read takes the place of the error
  match read with
  | .ok failure => failure
  | .error failure => failure

/-- The error of an answer, if it mentions one; an answer that is no object may still do so. -/
def answerError? : Json → Except Failure (Option Json)
  | .object members => .ok (Json.member? members "error")
  | .list items =>
    let mentions := items.any fun
      | .text s => s == "error"
      | _ => false
    if mentions then .error (Failure.of .wrongKind) else .ok none
  | .text s => if Text.contains s "error" then .error (Failure.of .wrongKind) else .ok none
  | _ => .error (Failure.of .wrongKind)

def answerResult (method : String) (answer : Json) : Except Failure Json := do
  match ← answerError? answer with
  | some error => throw (rpcFailure method error)
  | none =>
    let members ← answer.membersOf
    return Json.memberOr members "result"

/-- The result that a reply brings, for a reader that can have `depth` lists and objects open. -/
def Reply.result (depth : Nat) (method : String) : Reply → Except Failure Json
  | unreachable kind message => .error (.client (.transport (.unreachable method kind message)))
  | broken failure => .error failure
  | response status body =>
    if status = 429 ∨ 500 ≤ status then .error (.client (.transport (.httpStatus method status)))
    else if 400 ≤ status then .error (.client (.network (.httpStatus method status)))
    else
      match Json.parseBody depth body with
      -- only what is wrong with the text is a transport error, not the depth of the reader
      | .error .tooDeep => .error (Failure.ofJsonFault .tooDeep)
      | .error _ => .error (.client (.transport (.malformedBody method)))
      | .ok answer => answerResult method answer

end StorageAgent

namespace StorageAgent.Result

/-! ## Results

Results come in an envelope with the member `value`; a missing, empty or null one is taken as
nothing. -/

/-- The members of a result, none if the result is nothing. -/
def membersOf (result : Json) : Except Failure (List (String × Json)) :=
  if result.isTruthy then result.membersOf else .ok []

/-- The member `value` of a result. -/
def value (result : Json) : Except Failure Json := do
  let members ← membersOf result
  return Json.memberOr members "value"

/-- The first part of a list or text. -/
def firstOf : Json → Except Failure Json
  | .list (j :: _) => .ok j
  | .text s =>
    match s.toList with
    | c :: _ => .ok (.text (String.singleton c))
    | [] => .error (Failure.of .badValue)
  | .object _ => .error (Failure.of .noKey)
  | _ => .error (Failure.of .wrongKind)

def checkpoint (result : Json) : Except Failure Checkpoint := do
  let value ← value result
  let members ← membersOf value
  let hash := Json.memberOr members "blockhash"
  if !hash.isTruthy then throw (.client (.stale .noBlockhash))
  match hash with
  | .text s =>
    match Blockhash.parse s with
    | .ok h => return ⟨some h, Json.memberOr members "lastValidBlockHeight"⟩
    | .error _ => throw (Failure.of .badBlockhash)
  | _ => throw (Failure.of .wrongKind)

def signature (result : Json) : Except Failure Json :=
  if result.isTruthy then .ok result else .error (.client (.network .noSignature))

/-- The status of a result that was asked for one signature. -/
def status (result : Json) : Except Failure (Option SignatureStatus) := do
  let value ← value result
  -- one signature was asked for, so the first status is its own
  let first ← if value.isTruthy then firstOf value else .ok .null
  if first.isNull then return none
  let status ← SignatureStatus.ofJson first
  return some status

def height (result : Json) : Except Failure Json :=
  match result.toInteger with
  | .ok n => .ok (.int n)
  | .error .wrongKind => .error (Failure.of .wrongKind)
  | .error .noInteger => .error (Failure.of .badValue)
  | .error .infinite => .error (Failure.of .overflow)

def account (result : Json) : Except Failure (Option Bytes) := do
  let value ← value result
  if value.isNull then return none
  let members ← value.membersOf
  let data := Json.memberOr members "data"
  let first ← if data.isTruthy then firstOf data else .ok (.text "")
  match first with
  | .text s =>
    let bytes ← (Base64.decode s).mapError Failure.ofBase64Fault
    return some bytes
  | _ => throw (Failure.of .wrongKind)

end StorageAgent.Result
