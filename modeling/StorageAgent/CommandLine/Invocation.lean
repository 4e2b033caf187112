import StorageAgent.CommandLine.Found
import StorageAgent.Payload.Codec
import StorageAgent.Text.Basic

/-!
# Invocations

What a command line asks for. Flags and operands are taken in the order of the
line, and the first complaint or request for help ends the reading. Only a line
without complaints is checked for missing operands, and then for extra words.
-/
namespace StorageAgent.CommandLine

/-- A command with what it needs. -/
inductive Command where
  | init
  | register
  | remove (clientId : Argument)
  | send (draft : Draft)
  | status

structure Invocation where
  rpcUrl : Option String
  keypair : Option String
  logLevel : Option String
  command : Option Command

/-- Why a line asks for nothing: it wants help, or it is wrong. -/
inductive Refusal where
  | help (grammar : Grammar)
  | complaint (grammar : Grammar) (complaint : Complaint)

/-- What the words of a line have chosen so far. -/
structure Choices where
  rpcUrl : Option String := none
  keypair : Option String := none
  logLevel : Option String := none
  clientId : Argument := .int 0
  fileId : Argument := .int 0
  position : Argument := .int 0
  data : String := ""
  requestType : RequestType := .createBucket
  name : Argument := .null
  command : Option Command := none
  extras : List String := []

/-- The integer that is given to a flag, or an empty list if nothing is. -/
def integerFor (g : Grammar) (f : Flag) : Option String → Except Refusal Argument
  | none => .ok (.list [])
  | some text =>
    match Text.Numeral.integer? text with
    | some n => .ok (.int n)
    | none => .error (.complaint g (.noInteger f text))

def nameOf : List String → Argument
  | [w] => .text w
  | _ => .list []

/-- The choices after one more finding, where no command is among the operands. -/
def Choices.take (g : Grammar) (c : Choices) : Found → Except Refusal Choices
  | .flag .help _ => .error (.help g)
  | .flag .rpcUrl value => .ok { c with rpcUrl := value }
  | .flag .keypair value => .ok { c with keypair := value }
  | .flag .logLevel value => .ok { c with logLevel := value }
  | .flag .data value => .ok { c with data := value.getD "" }
  | .flag .clientId value => do
    let n ← integerFor g .clientId value
    return { c with clientId := n }
  | .flag .fileId value => do
    let n ← integerFor g .fileId value
    return { c with fileId := n }
  | .flag .position value => do
    let n ← integerFor g .position value
    return { c with position := n }
  | .operand .requestType words =>
    let w := words.headD ""
    match requestTypeOf? w with
    | some t => .ok { c with requestType := t }
    | none => .error (.complaint g (.noRequestType w))
  | .operand .name words => .ok { c with name := nameOf words }
  | .operand .command _ => .ok c
  | .extra w => .ok { c with extras := c.extras ++ [w] }
  | .complaint complaint => .error (.complaint g complaint)

def isGiven (o : Operand) (found : List Found) : Bool :=
  found.any fun
    | .operand p _ => p == o
    | _ => false

def readCommand (name : CommandName) (words : List String) :
    Except Refusal (Command × List String) := do
  let g := Grammar.ofCommand name
  let found := g.find words
  let c ← found.foldlM (Choices.take g) {}
  let missing := (g.operands.map (·.1)).filter fun o => !isGiven o found
  if !missing.isEmpty then throw (.complaint g (.missing missing))
  let command :=
    match name with
    | .init => .init
    | .register => .register
    | .remove => .remove c.clientId
    | .send => .send {
        requestType := .int c.requestType.code.toNat, name := c.name, fileId := c.fileId
        position := c.position, data := .text c.data, clientId := c.clientId }
    | .status => .status
  return (command, c.extras)

/-- The choices after one more finding on a whole line. -/
def Choices.takeWhole (g : Grammar) (c : Choices) : Found → Except Refusal Choices
  | .operand .command words =>
    let w := words.headD ""
    match CommandName.ofWord? w with
    | none => .error (.complaint g (.noCommand w))
    | some name => do
      let (command, extras) ← readCommand name words.tail
      return { c with command := some command, extras := c.extras ++ extras }
  | found => c.take g found

def Grammar.read (g : Grammar) (words : List String) : Except Refusal Invocation := do
  let c ← (g.find words).foldlM (Choices.takeWhole g) {}
  if !c.extras.isEmpty then throw (.complaint g (.unrecognized c.extras))
  return ⟨c.rpcUrl, c.keypair, c.logLevel, c.command⟩

end StorageAgent.CommandLine
