import StorageAgent.Instruction

/-!
# Messages

What is signed: a table of distinct keys, a block hash, and instructions that
name their accounts by index into the table. The payer is the first key. The
others stand in four groups, each in the order of the bytes:

    writable signers, read-only signers, writable others, read-only others

so the three counts of the header tell what each key may do. A key that is used
several times may do what any of its uses allows.

`compile` builds the message; `isSigner` and `isWritable` read the header back.
-/
namespace StorageAgent

/-- An instruction before its accounts are numbered. -/
structure Invocation where
  program : Address
  accounts : List AccountRef
  data : Bytes

def Instruction.invocation (i : Instruction) : Invocation := ⟨i.program, i.accounts, i.payload⟩

def Invocation.setComputeUnitLimit (units : Nat) : Invocation :=
  ⟨Address.computeBudgetProgram, [], 2 :: Bytes.ofNatLE 4 units⟩

/-- An instruction whose accounts are indexes into the key table. -/
structure CompiledInstruction where
  program : Nat
  accounts : List Nat
  data : Bytes
  deriving DecidableEq

/-- How many keys sign, how many of those are read only, and how many others are read only. -/
structure Header where
  signers : Nat
  readonlySigners : Nat
  readonlyOthers : Nat
  deriving DecidableEq

/-- A message of the legacy format. -/
structure Message where
  header : Header
  keys : List Address
  blockhash : Blockhash
  instructions : List CompiledInstruction
  deriving DecidableEq

namespace Message

/-! ## Compiling -/

/-- All uses of accounts in a message, the payer's first. -/
def uses (payer : Address) (invocations : List Invocation) : List AccountRef :=
  .payer payer :: invocations.flatMap fun i => .fixed i.program :: i.accounts

def signs (uses : List AccountRef) (a : Address) : Bool :=
  uses.any fun u => decide (u.address = a) && u.signer

def writes (uses : List AccountRef) (a : Address) : Bool :=
  uses.any fun u => decide (u.address = a) && u.writable

/-- `a` in its place among addresses in order, unless it is there. -/
def insertKey (a : Address) : List Address → List Address
  | [] => [a]
  | b :: rest => if a = b then b :: rest else if a.precedes b then a :: b :: rest
    else b :: insertKey a rest

/-- The distinct keys beside the payer, in order. -/
def otherKeys (payer : Address) (uses : List AccountRef) : List Address :=
  ((uses.map (·.address)).filter fun a => decide (a ≠ payer)).foldr insertKey []

def compile (payer : Address) (blockhash : Blockhash) (invocations : List Invocation) : Message :=
  let used := uses payer invocations
  let others := otherKeys payer used
  let group := fun signer writable =>
    others.filter fun a => signs used a == signer && writes used a == writable
  -- the order of the groups is what lets the header give the privileges by counts
  let keys := payer :: (group true true ++ group true false ++ group false true ++ group false false)
  { header :=
      { signers := 1 + (group true true).length + (group true false).length
        readonlySigners := (group true false).length
        readonlyOthers := (group false false).length }
    keys, blockhash
    instructions := invocations.map fun i =>
      { program := keys.idxOf i.program
        accounts := i.accounts.map fun r => keys.idxOf r.address
        data := i.data } }

/-- Whether the header makes key `i` of the table a signer. -/
def isSigner (m : Message) (i : Nat) : Bool := decide (i < m.header.signers)

/-- Whether the header makes key `i` of the table writable. -/
def isWritable (m : Message) (i : Nat) : Bool :=
  if i < m.header.signers then decide (i < m.header.signers - m.header.readonlySigners)
  else decide (i < m.keys.length - m.header.readonlyOthers)

end Message
end StorageAgent
