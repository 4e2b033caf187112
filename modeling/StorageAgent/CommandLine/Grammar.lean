import StorageAgent.Path
import StorageAgent.Payload.Opcode

/-!
# The grammar of the command line

A command line consists of flags, most of which take a value, and operands. Its
first operand names a command, whose own flags and operands are the rest.

Help texts are templates, so what stands in for a default may hold directives.
-/
namespace StorageAgent.CommandLine

inductive Flag where
  | help
  | rpcUrl
  | keypair
  | logLevel
  | clientId
  | fileId
  | position
  | data
  deriving DecidableEq, Repr

namespace Flag

/-- The spellings of a flag, the shortest first. -/
def names : Flag → List String
  | help => ["-h", "--help"]
  | rpcUrl => ["--rpc-url"]
  | keypair => ["--keypair"]
  | logLevel => ["--log-level"]
  | clientId => ["--client-id"]
  | fileId => ["--file-id"]
  | position => ["--position"]
  | data => ["--data"]

/-- What stands for the value of a flag that takes one. -/
def valueName? : Flag → Option String
  | help => none
  | rpcUrl => some "RPC_URL"
  | keypair => some "KEYPAIR"
  | logLevel => some "LOG_LEVEL"
  | clientId => some "CLIENT_ID"
  | fileId => some "FILE_ID"
  | position => some "POSITION"
  | data => some "DATA"

end Flag

inductive Operand where
  /-- A command with all that belongs to it. -/
  | command
  | requestType
  | name
  deriving DecidableEq, Repr

/-- How messages name an operand. -/
def Operand.label : Operand → String
  | command => "command"
  | requestType => "request_type"
  | name => "name"

inductive CommandName where
  | init
  | register
  | remove
  | send
  | status
  deriving DecidableEq, Repr

namespace CommandName

def all : List CommandName := [init, register, remove, send, status]

def word : CommandName → String
  | init => "init"
  | register => "register"
  | remove => "remove"
  | send => "send"
  | status => "status"

def ofWord? (w : String) : Option CommandName := all.find? fun c => c.word == w

def help : CommandName → String
  | init => "Create the program's bookkeeper account"
  | register => "Register this wallet as a client"
  | remove => "Remove this wallet's client registration"
  | send => "Send a storage request"
  | status => "Show derived accounts and on-chain state"

end CommandName

/-- What may stand on a line, and what is said about it. -/
structure Grammar where
  program : String
  description : String := ""
  /-- The flags with their help. -/
  flags : List (Flag × String)
  /-- The operands with their help. -/
  operands : List (Operand × String) := []

def helpOnHelp : Flag × String := (.help, "show this help message and exit")

/-- The whole command line, with the endpoint and the keypair file that are used unless others are
given. -/
def Grammar.whole (rpcUrl : String) (keypair : Path) : Grammar where
  program := "bitoku"
  description := "Bitoku agent program CLI"
  flags := [helpOnHelp, (.rpcUrl, "RPC endpoint (default: " ++ rpcUrl ++ ")"),
    (.keypair, "Keypair file (default: " ++ keypair.text ++ ")"),
    (.logLevel, "Log level (default: from settings)")]
  operands := [(.command, "")]

/-- What belongs to a command. -/
def Grammar.ofCommand (c : CommandName) : Grammar :=
  let program := "bitoku " ++ c.word
  match c with
  | .remove =>
    { program, flags := [helpOnHelp, (.clientId, "Client id (default: 0)")] }
  | .send =>
    { program
      flags := [helpOnHelp, (.fileId, ""), (.position, ""), (.data, "Payload (at most 512 bytes)"),
        (.clientId, "")]
      operands := [(.requestType, "create_bucket, create_file, write_file, ..."),
        (.name, "Bucket or file name (at most 128 bytes)")] }
  | _ => { program, flags := [helpOnHelp] }

/-- The request type of a word in any case, with hyphens or underscores. -/
def requestTypeOf? (w : String) : Option RequestType :=
  RequestType.ofName? (String.ofList ((Text.upper w).toList.map fun c => if c = '-' then '_' else c))

def requestTypeNames : List String := RequestType.all.map fun t => Text.lower t.name

end StorageAgent.CommandLine
