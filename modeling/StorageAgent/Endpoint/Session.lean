import StorageAgent.Backoff
import StorageAgent.Endpoint.Reply
import StorageAgent.Endpoint.Url

/-!
# Sessions

A session asks an endpoint for what a ledger has to answer. Each method is one
JSON-RPC call, tried again after transport errors; requests are numbered as they
are made.
-/
namespace StorageAgent

/-- The way to an endpoint. -/
structure Transport (m : Type → Type) where
  /-- A number that no request of the session has had: 1, 2, 3, … -/
  nextId : m Nat
  /-- Sends a request and waits for how it ends. -/
  post : RpcRequest → m Reply

/-- What a session asks for, and how often. -/
structure SessionConfig (τ : Type) where
  destination : Destination
  commitment : String
  maxAttempts : Int
  retryDelay : τ
  skipPreflight : Bool
  /-- How many lists and objects of a body can be open while it is read. -/
  nesting : Nat

def SessionConfig.standard {τ : Type} [Seconds τ] : SessionConfig τ where
  destination := .absolute
  commitment := "confirmed"
  maxAttempts := 3
  retryDelay := Seconds.ofRatio 1 2
  skipPreflight := false
  nesting := Capacity.standard.nesting

namespace Session

variable {m : Type → Type} [Monad m] {τ : Type} [Seconds τ]

/-- One exchange: a request with a number of its own, and what its reply is read as. -/
def exchange (host : Host m τ) (transport : Transport m) (config : SessionConfig τ)
    (method : String) (params : List Json) : ExceptT Failure m Json := do
  let id ← transport.nextId
  host.log ⟨.debug, .endpoint, s!"RPC {method} id={id}"⟩
  -- what has nowhere to go is not sent, nor what cannot be written as JSON
  if config.destination = .invalid then throw (Failure.of .invalidUrl)
  if !Json.allWritable params then throw (Failure.of .badValue)
  let reply ← transport.post ⟨id, method, params⟩
  -- a response cannot be taken in if its sender has no name
  if config.destination = .relative ∧ reply.isResponse then throw (Failure.of .badValue)
  reply.result config.nesting method

def backoff (config : SessionConfig τ) : Backoff τ :=
  { Backoff.standard with maxAttempts := config.maxAttempts, initial := config.retryDelay }

/-- A call, tried again after transport errors. -/
def call (host : Host m τ) (transport : Transport m) (config : SessionConfig τ) (method : String)
    (params : List Json) : ExceptT Failure m Json :=
  (backoff config).retry host method (exchange host transport config method params)

def readOptions (config : SessionConfig τ) : List (String × Json) :=
  [("commitment", .text config.commitment)]

/-- The ledger that a session gives access to. -/
def ledger (host : Host m τ) (transport : Transport m) (config : SessionConfig τ) : Ledger m where
  latestBlockhash := do
    let result ← call host transport config "getLatestBlockhash" [.object (readOptions config)]
    Result.checkpoint result
  send raw := do
    let options : List (String × Json) :=
      [("encoding", .text "base64"), ("skipPreflight", .bool config.skipPreflight),
        ("preflightCommitment", .text config.commitment)]
    -- every attempt sends the same bytes, so the signature stays the same
    let result ← call host transport config "sendTransaction"
      [.text (Base64.encode raw), .object options]
    Result.signature result
  status signature := do
    let result ← call host transport config "getSignatureStatuses"
      [.list [signature], .object [("searchTransactionHistory", .bool false)]]
    Result.status result
  height := do
    let result ← call host transport config "getBlockHeight" [.object (readOptions config)]
    Result.height result
  account address := do
    let result ← call host transport config "getAccountInfo"
      [.text address.text, .object (("encoding", .text "base64") :: readOptions config)]
    Result.account result

end Session
end StorageAgent
