import StorageAgent.Address
import StorageAgent.Encoding
import StorageAgent.Error.Rejection
import StorageAgent.Json.Reader
import StorageAgent.Payload.Codec

/-!
# Failures

What can end a computation: an error of the client, or a fault that is none of
its errors, such as a value of the wrong kind in an answer of the endpoint.

The errors of the client go by their causes. Input, derivation and signing fail
before the network is reached. Of the others a stale checkpoint and a transport
error are recoverable: the first by signing again, the second by sending again.

Integers are shown in full in the wording of an error. The limit of 4300 digits
that holds where integers are read (`Json.digitLimit`) is left out where they are
shown, here and in what is logged.
-/
namespace StorageAgent

/-! ## Errors of the client

`ClientError.message` is the wording of every error. The causes named `reported` carry words that
a caller chose. -/

/-- Why nothing was signed. -/
inductive SigningFault where
  | noProvider
  | seedSize (actual : Nat)
  | secretSize (actual : Nat)
  | halvesDiffer
  | fileMissing (path : String)
  | fileNotJson (path : String)
  | fileNotBytes (path : String)
  | wrongPayer (first payer : Address)
  | providerFailed (message : String)
  | signatureSize (actual : Nat)
  | unverified (payer : Address)
  | reported (message : String)

def SigningFault.message : SigningFault → String
  | noProvider => "no key provider configured"
  | seedSize actual => s!"ed25519 seed must be 32 bytes, got {actual}"
  | secretSize actual => s!"secret key must be 64 bytes, got {actual}"
  | halvesDiffer => "secret key public half does not match its seed"
  | fileMissing path => "keypair file not found: " ++ path
  | fileNotJson path => "keypair file " ++ path ++ " is not valid JSON"
  | fileNotBytes path => "keypair file " ++ path ++ " must hold a JSON array of bytes"
  | wrongPayer first payer => "fee payer " ++ first.text ++ " is not the signer " ++ payer.text
  | providerFailed message => "key provider failed to sign: " ++ message
  | signatureSize actual => s!"signature must be 64 bytes, got {actual}"
  | unverified payer => "signature does not verify against fee payer " ++ payer.text
  | reported message => message

/-- Why a transaction has no usable block hash. -/
inductive StaleFault where
  | noCheckpoint
  | noBlockhash
  | refused (method message : String)
  | expired (signature limit height : Json)
  | noAttempt
  | reported (message : String)

def StaleFault.message : StaleFault → String
  | noCheckpoint => "no recent blockhash to stamp the transaction with"
  | noBlockhash => "getLatestBlockhash returned no blockhash"
  | refused method message => method ++ ": " ++ message
  | expired signature limit height =>
    "blockhash for " ++ signature.display ++ " expired at height " ++ limit.display ++
      " (current " ++ height.display ++ ") before the transaction was seen"
  | noAttempt => "blockhash expired on every attempt"
  | reported message => message

/-- Why an exchange with the endpoint failed for the moment. -/
inductive TransportFault where
  | unreachable (method kind message : String)
  | httpStatus (method : String) (status : Int)
  | malformedBody (method : String)
  | nodeUnhealthy (method : String) (code : Json) (message : String)
  | noAttempt (description : String)
  | reported (message : String) (status : Option Int)

def TransportFault.message : TransportFault → String
  | unreachable method kind message => method ++ ": " ++ kind ++ ": " ++ message
  | httpStatus method status => s!"{method}: HTTP error {status}"
  | malformedBody method => method ++ ": malformed JSON response"
  | nodeUnhealthy method code message => method ++ ": RPC error " ++ code.display ++ ": " ++ message
  | noAttempt description => description ++ ": all retry attempts exhausted"
  | reported message _ => message

def TransportFault.status? : TransportFault → Option Int
  | httpStatus _ status => some status
  | reported _ status => status
  | _ => none

/-- Why the endpoint refused an exchange for good. -/
inductive NetworkFault where
  | httpStatus (method : String) (status : Int)
  | noSignature
  | reported (message : String)

def NetworkFault.message : NetworkFault → String
  | httpStatus method status => s!"{method}: HTTP error {status}"
  | noSignature => "No signature returned from sendTransaction"
  | reported message => message

/-- An error of the client. -/
inductive ClientError where
  /-- An error of no particular kind. -/
  | general (message : String)
  | input (fault : InputFault)
  | derivation (fault : Address.DerivationFault)
  | signing (fault : SigningFault)
  | network (fault : NetworkFault)
  | stale (fault : StaleFault)
  | transport (fault : TransportFault)
  | rejected (rejection : Rejection)
  /-- Polling gave up before the outcome of a transaction was known. -/
  | timedOut (message : String) (signature : Json)

namespace ClientError

def message : ClientError → String
  | general message => message
  | input fault => fault.message
  | derivation fault => fault.message
  | signing fault => fault.message
  | network fault => fault.message
  | stale fault => fault.message
  | transport fault => fault.message
  | rejected rejection => rejection.message
  | timedOut message _ => message

/-- Whether the client itself tries again. -/
def isRecoverable : ClientError → Bool
  | stale _ => true
  | transport _ => true
  | _ => false

end ClientError

/-! ## Failures -/

/-- The kinds of faults that are no errors of the client. -/
inductive FaultKind where
  /-- A value is of the wrong kind for what is done with it. -/
  | wrongKind
  /-- A value is of the right kind and cannot be used. -/
  | badValue
  /-- A value has no member of some name. -/
  | noMember
  /-- An object has no value under some key. -/
  | noKey
  /-- A number is too large. -/
  | overflow
  /-- A division by zero. -/
  | zeroDivision
  /-- Bytes are no text. -/
  | undecodable
  /-- A text is no JSON. -/
  | notJson
  | isDirectory
  | notDirectory
  /-- The system failed. -/
  | system
  /-- Anything else that went wrong while running. -/
  | runtime
  /-- There is not enough memory. -/
  | memory
  /-- A value is nested too deeply. -/
  | depth
  | badBase64
  | badBlockhash
  /-- The body of a response cannot be decompressed. -/
  | undecodableReply
  | tooManyRedirects
  | invalidUrl
  /-- A loop ran out of the rounds that were allotted to it. -/
  | outOfRounds
  deriving DecidableEq, Repr

/-- What ends a computation. -/
inductive Failure where
  | client (error : ClientError)
  | fault (kind : FaultKind) (message : String)

namespace Failure

def message : Failure → String
  | client error => error.message
  | fault _ message => message

/-- A failure of the given kind that nobody words. -/
def of (kind : FaultKind) : Failure := fault kind ""

def input (fault : InputFault) : Failure := client (.input fault)

def derivation (fault : Address.DerivationFault) : Failure := client (.derivation fault)

def ofPairFault : PairFault → Failure
  | .notMany => of .wrongKind
  | .notTwo => of .badValue

def ofBase64Fault : Base64.Fault → Failure
  | .notAscii => of .badValue
  | .incomplete => of .badBase64

def ofJsonFault : Json.Fault → Failure
  | .malformed => of .notJson
  | .tooManyDigits => of .badValue
  | .tooDeep => of .depth

def isStale : Failure → Bool
  | client (.stale _) => true
  | _ => false

end Failure

end StorageAgent
