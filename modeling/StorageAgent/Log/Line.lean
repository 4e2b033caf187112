import StorageAgent.Template

/-!
# Log lines and events

What the client reports while it works: a level, the part of the client that
speaks, and words. While an operation is executed its name and its caller are
known to the log, so a line becomes an event whose members name the operation.

The words of a line are there before it is reported. Integers in them are shown in
full, without the limit of 4300 digits that holds where integers are read.
-/
namespace StorageAgent.Log

/-- The levels, from the least to the most urgent. -/
inductive Level where
  | debug
  | info
  | warning
  | error
  | critical
  deriving DecidableEq, Repr

namespace Level

def all : List Level := [debug, info, warning, error, critical]

def number : Level → Nat
  | debug => 10
  | info => 20
  | warning => 30
  | error => 40
  | critical => 50

/-- How log lines name a level. -/
def name : Level → String
  | debug => "debug"
  | info => "info"
  | warning => "warning"
  | error => "error"
  | critical => "critical"

def ofNumber? (n : Nat) : Option Level := all.find? fun l => l.number == n

end Level

/-- The parts of the client that report. -/
inductive Origin where
  | client
  | envelope
  | backoff
  | endpoint
  | confirmation
  deriving DecidableEq, Repr

/-- The name under which a part reports. -/
def Origin.name : Origin → String
  | client => "bitoku_client.client"
  | envelope => "bitoku_client.core.execution.assembler"
  | backoff => "bitoku_client.core.execution.retry"
  | endpoint => "bitoku_client.core.execution.solana_rpc"
  | confirmation => "bitoku_client.core.execution.submitter"

structure Line where
  level : Level
  origin : Origin
  message : String

/-- The operation that is being executed. -/
structure Context where
  operation : String
  caller : String
  deriving DecidableEq

/-! ## Events -/

/-- Something that was reported. -/
structure Event where
  source : String
  level : Level
  message : String
  context : List (String × Json) := []

/-- The members that an operation gives to its events. -/
def Context.members (c : Context) : List (String × Json) :=
  [("operation", .text c.operation), ("caller", .text c.caller)]

def Line.event (line : Line) (context : Option Context) : Event where
  source := line.origin.name
  level := line.level
  message := line.message
  context := (context.map Context.members).getD []

/-- Words with values in their places. Words without values are left as they are, and a single
object gives its members by name. -/
def word (template : String) : List Json → Except Template.Fault String
  | [] => .ok template
  | [.object (m :: members)] => Template.fill template (.named (m :: members))
  | values => Template.fill template (.ordered values)

end StorageAgent.Log
