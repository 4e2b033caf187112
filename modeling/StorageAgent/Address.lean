import StorageAgent.Crypto.Ed25519
import StorageAgent.Crypto.Sha2
import StorageAgent.Encoding
import StorageAgent.Text.Printable
import StorageAgent.Text.Utf8

/-!
# Addresses

An account is named by 32 bytes, shown in base58. Block hashes have the same
size and the same text, and are a type of their own.
-/
namespace StorageAgent

/-- The number of bytes of an address and of a block hash. -/
def addressSize : Nat := 32

/-- The address of an account. -/
structure Address where
  bytes : Bytes
  size : bytes.length = addressSize
  deriving DecidableEq

/-- The hash of a block. -/
structure Blockhash where
  bytes : Bytes
  size : bytes.length = addressSize
  deriving DecidableEq

/-- Why a text is not the base58 form of 32 bytes. -/
inductive NameFault where
  | invalid
  | wrongSize
  deriving DecidableEq, Repr

def NameFault.message : NameFault → String
  | .invalid => "Invalid Base58 string"
  | .wrongSize => "String is the wrong size"

/-- The most bytes that the base58 form of 32 bytes takes. -/
def nameLimit : Nat := 44

/-- The 32 bytes that a text names. A text that is too long is refused unread. -/
def readName (text : String) : Except NameFault { bytes : Bytes // bytes.length = addressSize } :=
  if nameLimit < text.utf8ByteSize then .error .wrongSize
  else
    match Base58.decode? text with
    | none => .error .invalid
    | some bytes => if h : bytes.length = addressSize then .ok ⟨bytes, h⟩ else .error .wrongSize

namespace Address

def ofBytes? (bytes : Bytes) : Option Address :=
  if h : bytes.length = addressSize then some ⟨bytes, h⟩ else none

/-- The first 32 bytes of a string that has as many, else zeros to the right of what it has. -/
def ofStart (bytes : Bytes) : Address :=
  ⟨Bytes.padRight addressSize (bytes.take addressSize),
    Bytes.length_padRight _ _ (List.length_take_le _ _)⟩

theorem ofStart_bytes (a : Address) : ofStart a.bytes = a := by
  have htake : a.bytes.take addressSize = a.bytes := List.take_of_length_le (Nat.le_of_eq a.size)
  cases a with
  | mk bytes size =>
    simp only [ofStart, htake, Bytes.padRight, size, Nat.sub_self, List.replicate_zero,
      List.append_nil]

theorem bytes_ofStart {b : Bytes} (h : b.length = addressSize) : (ofStart b).bytes = b := by
  rw [show ofStart b = ⟨b, h⟩ from ofStart_bytes ⟨b, h⟩]

def parse (text : String) : Except NameFault Address :=
  (readName text).map fun b => ⟨b.1, b.2⟩

def text (a : Address) : String := Base58.encode a.bytes

def precedes (a b : Address) : Bool := Bytes.precedes a.bytes b.bytes

/-- The address of 32 bytes written as an integer, most significant byte first. -/
def ofNat (n : Nat) : Address :=
  ⟨Bytes.ofNatBE addressSize n, by simp [Bytes.ofNatBE, Bytes.length_ofNatLE]⟩

/-- The system program, which creates accounts. -/
def systemProgram : Address := ofNat 0

/-- The account that tells the rent rates. -/
def rentSysvar : Address := ofNat 0x06a7d517192c5c51218cc94c3d4af17f58daee089ba1fd44e3dbd98a00000000

def computeBudgetProgram : Address :=
  ofNat 0x0306466fe5211732ffecadba72c39be7bc8ce5bbc5f7126b2c439b3a40000000

end Address

namespace Blockhash

def ofBytes? (bytes : Bytes) : Option Blockhash :=
  if h : bytes.length = addressSize then some ⟨bytes, h⟩ else none

def parse (text : String) : Except NameFault Blockhash :=
  (readName text).map fun b => ⟨b.1, b.2⟩

def text (h : Blockhash) : String := Base58.encode h.bytes

end Blockhash

end StorageAgent

namespace StorageAgent.Address

/-! ## Derived addresses

A program owns the accounts at the hashes of seeds and its own address, as far
as these are no points of the ed25519 curve: nobody holds a key to them. One
more seed, the bump, is searched downwards from 255 for the first such hash.

* `atSeeds` takes all seeds as given and tells whether they hit the curve.
* `find` adds the bump.
* `bookkeeper` and `requestAccount` are the two derivations of the agent program. -/

def seedLimit : Nat := 32

def seedCount : Nat := 16

/-- Why no address can be derived. -/
inductive DerivationFault where
  | tooManySeeds (limit count : Nat)
  | seedTooLong (seed : Bytes)
  | noBump (seeds : List Bytes) (program : Address)
  /-- Refused by a caller, in its own words. -/
  | reported (message : String)

def seedList : List Bytes → String
  | [] => "()"
  | [s] => "(" ++ Text.quoteBytes s ++ ",)"
  | s :: rest => "(" ++ rest.foldl (fun t s => t ++ ", " ++ Text.quoteBytes s) (Text.quoteBytes s) ++ ")"

def DerivationFault.message : DerivationFault → String
  | .tooManySeeds limit count => s!"at most {limit} seeds are allowed, got {count}"
  | .seedTooLong seed =>
    "seed " ++ Text.quoteBytes (seed.take 8) ++
      s!"... is {seed.length} bytes, maximum is {seedLimit}"
  | .noBump seeds program =>
    "no viable bump seed for " ++ seedList seeds ++ " under " ++ program.text ++
      ": Unable to find a viable program address bump seed"
  | .reported message => message

/-- Refuses more seeds than `limit`, and the first seed that is too long. -/
def checkSeeds (limit : Nat) (seeds : List Bytes) : Except DerivationFault Unit :=
  if limit < seeds.length then .error (.tooManySeeds limit seeds.length)
  else
    match seeds.find? fun seed => decide (seedLimit < seed.length) with
    | some seed => .error (.seedTooLong seed)
    | none => .ok ()

def derivationMarker : Bytes := Text.Utf8.encode "ProgramDerivedAddress"

/-- The string that is hashed. -/
def preimage (seeds : List Bytes) (program : Address) : Bytes :=
  seeds.flatten ++ program.bytes ++ derivationMarker

def hashed (seeds : List Bytes) (program : Address) : Address :=
  ofStart (Crypto.Sha256.hash (preimage seeds program))

/-- The hash, unless it is a point of the curve. -/
def offCurve? (seeds : List Bytes) (program : Address) : Option Address :=
  let a := hashed seeds program
  if Crypto.Ed25519.isPoint a.bytes then none else some a

/-- The address at exactly these seeds; `none` if it is a point of the curve. -/
def atSeeds (seeds : List Bytes) (program : Address) : Except DerivationFault (Option Address) := do
  checkSeeds seedCount seeds
  return offCurve? seeds program

/-- An address and the bump that it was found with. -/
structure Derived where
  address : Address
  bump : UInt8
  deriving DecidableEq

/-- The address at the greatest bump from `n` down to 1 that has one. -/
def greatest (address? : UInt8 → Option Address) : Nat → Option Derived
  | 0 => none
  | n + 1 =>
    let bump := UInt8.ofNat (n + 1)
    match address? bump with
    | some a => some ⟨a, bump⟩
    | none => greatest address? n

/-- The address of the greatest bump from `n` down to 1 that is off the curve. -/
def search (seeds : List Bytes) (program : Address) (n : Nat) : Option Derived :=
  greatest (fun bump => offCurve? (seeds ++ [[bump]]) program) n

/-- The address of these seeds and the greatest bump that is off the curve. -/
def find (seeds : List Bytes) (program : Address) : Except DerivationFault Derived := do
  -- the bump is a seed too
  checkSeeds (seedCount - 1) seeds
  match search seeds program 255 with
  | some found => return found
  | none => .error (.noBump seeds program)

def bookkeeperSeed : Bytes := Text.Utf8.encode "bookkeeper"

def requestSeed : Bytes := Text.Utf8.encode "request"

/-- The program's registry of client ids. -/
def bookkeeper (program : Address) : Except DerivationFault Derived := find [bookkeeperSeed] program

/-- The account in which the program keeps the pending request of a caller. -/
def requestAccount (program caller : Address) : Except DerivationFault Derived :=
  find [requestSeed, caller.bytes] program

end StorageAgent.Address
