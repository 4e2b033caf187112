import StorageAgent.Client
import StorageAgent.Endpoint.Session
import StorageAgent.Settings.Dotenv
import StorageAgent.Settings.Field

/-!
# Settings

The settings of the client. A value comes from the program, else from the
environment, else from a dotenv file, else it is the default. Names are read in
any case; some fields have several names, of which the first that is present
counts.

All faults are reported, in the order of the fields.
-/
namespace StorageAgent

/-- The settings of a client and its log. -/
structure Settings where
  logLevel : String
  rpcUrl : String
  commitment : Commitment
  rpcTimeout : Float
  rpcMaxRetries : Int
  rpcRetryDelay : Float
  program : Address
  keypairPath : Path
  unitLimit : Int
  confirmTimeout : Float
  pollInterval : Float
  maxStaleRetries : Int

namespace Settings

/-- Where values come from, the strongest first. -/
structure Sources where
  given : List (String × Argument)
  environment : List (String × String)
  file : List Dotenv.Binding

structure Fault where
  field : String
  cause : FieldFault

/-- Why there are no settings. -/
inductive LoadFault where
  | invalid (faults : List Fault)
  /-- A home directory is not known. -/
  | noHome (failure : Failure)

/-- The value of the first of these names that is present in any case; of several spellings the last
counts. -/
def lookupAnyCase (names : List String) (bindings : List Dotenv.Binding) : Option String :=
  let folded := bindings.map fun (k, v) => (Text.lower k, v)
  names.findSome? fun name => (Dotenv.lastValue? (Text.lower name) folded).join

/-- The first of these names that the program gives in any case, with its value; of several spellings
the first counts. -/
def givenAnyCase (names : List String) (given : List (String × Argument)) :
    Option (String × Argument) :=
  let folded := given.map fun (k, v) => (Text.lower k, v)
  names.findSome? fun name => (folded.lookup (Text.lower name)).map (name, ·)

/-- The value of a field from the strongest source that has it, with the name that it is reported
under. -/
def Sources.find (s : Sources) (names : List String) : Option (String × Argument) :=
  match givenAnyCase names s.given with
  | some found => some found
  | none =>
    let own := names.headD ""
    match lookupAnyCase names (s.environment.map fun (k, v) => (k, some v)) with
    | some v => some (own, .text v)
    | none => (lookupAnyCase names s.file).map fun v => (own, .text v)

/-- A computation that collects faults. -/
abbrev Checking := StateM (List Fault)

/-- The value of a field under the first of its names. A refused value is reported and replaced by the
default. -/
def Sources.field {α : Type} (s : Sources) (names : List String) (default : α)
    (read : Argument → Except FieldFault α) : Checking α :=
  match s.find names with
  | none => pure default
  | some (name, a) =>
    match read a with
    | .ok value => pure value
    | .error cause => do
      modify (· ++ [⟨name, cause⟩])
      pure default

def defaultProgram : Address :=
  Address.ofNat 0x8aa7a9085f1894531ae00e1b0150cf6dd909ae502f862cd1eaa33dbb14e66a5b

def defaultKeypair : Path := Path.parse "~/.config/solana/id.json"

/-- The greatest compute unit limit that the cluster grants. -/
def unitLimitCeiling : Nat := 1400000

def check (s : Sources) : Checking Settings := do
  let logLevel ← s.field ["log_level"] "INFO" readText
  let rpcUrl ← s.field ["rpc_url", "bitoku_rpc_url", "SOLANA_RPC_URL"]
    "https://api.devnet.solana.com" readText
  let commitment ← s.field ["commitment"] Commitment.confirmed commitmentOf
  let rpcTimeout ← s.field ["rpc_timeout_seconds"] 30.0 positive
  let rpcMaxRetries ← s.field ["rpc_max_retries"] 3 (integerWithin 1 none)
  let rpcRetryDelay ← s.field ["rpc_retry_delay_seconds"] 0.5 nonNegative
  let program ← s.field ["program_id", "bitoku_program_id"] defaultProgram programOf
  let keypairPath ← s.field ["keypair_path"] defaultKeypair pathOf
  let unitLimit ← s.field ["compute_unit_limit"] (Envelope.defaultUnitLimit : Int)
    (integerWithin 1 (some unitLimitCeiling))
  let confirmTimeout ← s.field ["confirm_timeout_seconds"] 60.0 positive
  let pollInterval ← s.field ["poll_interval_seconds"] 1.0 positive
  let maxStaleRetries ← s.field ["max_stale_retries"] 3 (integerWithin 0 none)
  return {
    logLevel, rpcUrl, commitment, rpcTimeout, rpcMaxRetries, rpcRetryDelay, program, keypairPath
    unitLimit, confirmTimeout, pollInterval, maxStaleRetries }

/-- The settings of some sources, with the keypair path expanded. -/
def load (homes : Homes) (s : Sources) : Except LoadFault Settings :=
  match (check s).run [] with
  -- the path is expanded only if all fields are right
  | (settings, []) =>
    match settings.keypairPath.expand homes with
    | .ok path => .ok { settings with keypairPath := path }
    | .error failure => .error (.noHome failure)
  | (_, faults) => .error (.invalid faults)

def session (s : Settings) (room : Capacity) : SessionConfig Float :=
  { (SessionConfig.standard : SessionConfig Float) with
    destination := Url.destination s.rpcUrl
    commitment := s.commitment.name, maxAttempts := s.rpcMaxRetries, retryDelay := s.rpcRetryDelay
    nesting := room.nesting }

def client (s : Settings) (room : Capacity) (key : Key) : Client Float where
  key
  program := s.program
  unitLimit := s.unitLimit
  commitment := s.commitment
  polling := Polling.every s.confirmTimeout s.pollInterval Polling.standardCap
  staleRetries := s.maxStaleRetries.toNat
  memory := room.memory

end Settings
end StorageAgent
