import StorageAgent.Error.Failure

/-!
# Instructions

An instruction for the agent program: its payload and the accounts it works on.

    InitBookkeeper       caller, bookkeeper, system program, rent
    CreateClientAccount  caller, bookkeeper, request account, system program, rent
    DeleteClient         caller, bookkeeper, request account
    SendRequest          caller, request account

The caller signs and pays, so its account is writable. The program writes to its
own two accounts.
-/
namespace StorageAgent

/-- An account of an instruction, and what the instruction may do with it. -/
structure AccountRef where
  address : Address
  signer : Bool
  writable : Bool
  deriving DecidableEq

namespace AccountRef

/-- The caller, who signs and pays. -/
def payer (caller : Address) : AccountRef := ⟨caller, true, true⟩

/-- An account that the program writes to. -/
def owned (address : Address) : AccountRef := ⟨address, false, true⟩

/-- An account that is read only. -/
def fixed (address : Address) : AccountRef := ⟨address, false, false⟩

end AccountRef

/-- An instruction for the program at an address. -/
structure Instruction where
  opcode : Opcode
  program : Address
  payload : Bytes
  accounts : List AccountRef

namespace Instruction

/-- The accounts of an opcode, in order. -/
def accountsFor (program caller : Address) (opcode : Opcode) :
    Except Address.DerivationFault (List AccountRef) := do
  match opcode with
  | .initBookkeeper =>
    let bookkeeper ← Address.bookkeeper program
    return [.payer caller, .owned bookkeeper.address, .fixed Address.systemProgram,
      .fixed Address.rentSysvar]
  | .createClientAccount =>
    let request ← Address.requestAccount program caller
    let bookkeeper ← Address.bookkeeper program
    return [.payer caller, .owned bookkeeper.address, .owned request.address,
      .fixed Address.systemProgram, .fixed Address.rentSysvar]
  | .deleteClient =>
    let request ← Address.requestAccount program caller
    let bookkeeper ← Address.bookkeeper program
    return [.payer caller, .owned bookkeeper.address, .owned request.address]
  | .sendRequest =>
    let request ← Address.requestAccount program caller
    return [.payer caller, .owned request.address]

/-- The accounts of a number. One that is no opcode has those of a registration. -/
def accountsForNumber (program caller : Address) (n : Int) :
    Except Address.DerivationFault (List AccountRef) :=
  accountsFor program caller ((Opcode.ofNumber? n).getD .createClientAccount)

def ofCall (program caller : Address) (call : Call) : Except ClientError Instruction :=
  match accountsFor program caller call.opcode with
  | .ok accounts => .ok ⟨call.opcode, program, call.payload, accounts⟩
  | .error fault => .error (.derivation fault)

def encode (program caller : Address) (opcode : Argument) (args : Arguments) :
    Except ClientError Instruction :=
  match opcode.opcode with
  | .error fault => .error (.input fault)
  | .ok opcode =>
    match Call.check opcode args with
    | .error fault => .error (.input fault)
    | .ok call => ofCall program caller call

def initBookkeeper (program caller : Address) : Except ClientError Instruction :=
  ofCall program caller .initBookkeeper

def createClientAccount (program caller : Address) : Except ClientError Instruction :=
  ofCall program caller .createClientAccount

def deleteClient (program caller : Address) (clientId : Argument) :
    Except ClientError Instruction :=
  encode program caller (.int Opcode.deleteClient.code.toNat) (.delete clientId)

def sendRequest (program caller : Address) (draft : Draft) : Except ClientError Instruction :=
  encode program caller (.int Opcode.sendRequest.code.toNat) (.send draft)

end Instruction
end StorageAgent
