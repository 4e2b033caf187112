import StorageAgent.Address
import StorageAgent.Payload.Codec

/-!
# Accounts of the agent program

The program's registry, and the last request of each caller as the program stores
it.
-/
namespace StorageAgent

/-! ## The bookkeeper account

A bitmap of 256 client ids, and the id that is given out next. Id `8 * i + j` is bit `j` of
byte `i`, the lowest bit first. -/

/-- A bitmap of registered clients, of any length, and the next id. -/
structure Bookkeeper where
  status : Bytes
  nextId : UInt8

namespace Bookkeeper

def statusSize : Nat := 32

def accountSize : Nat := statusSize + 1

/-- The registry of an account. What follows it is not read. -/
def parse (raw : Bytes) : Except InputFault Bookkeeper :=
  if raw.length < accountSize then .error (.shortBookkeeper raw.length accountSize)
  else .ok ⟨raw.take statusSize, raw.getD statusSize 0⟩

def capacity (b : Bookkeeper) : Nat := b.status.length * 8

/-- Bit `id` of the bitmap. -/
def bit (b : Bookkeeper) (id : Nat) : Bool :=
  (b.status.getD (id / 8) 0).toNat.testBit (id % 8)

/-- Whether an id of the bitmap is registered. -/
def isRegistered (b : Bookkeeper) (id : Int) : Except InputFault Bool :=
  if 0 ≤ id ∧ id < b.capacity then .ok (b.bit id.toNat)
  else .error (.noSuchClient id ((b.capacity : Int) - 1))

/-- The registered ids in increasing order. -/
def registered (b : Bookkeeper) : List Nat := (List.range b.capacity).filter b.bit

end Bookkeeper

/-! ## Request accounts

    [client id][requester:32][request type][name:128][file id][tail:512]

The tail holds the request's data, or, for a change of position, the position in its first eight
bytes. -/

/-- The request in a caller's account. A request type that the client does not know is `none`. -/
structure RequestRecord where
  clientId : UInt8
  requester : Address
  requestType : Option RequestType
  name : Bytes
  fileId : UInt8
  tail : Bytes

namespace RequestRecord

def accountSize : Nat := 1 + addressSize + 1 + nameSize + 1 + dataSize

def parse (raw : Bytes) : Except InputFault RequestRecord :=
  if raw.length < accountSize then .error (.shortRequest raw.length accountSize)
  else .ok {
    clientId := raw.getD 0 0
    requester := Address.ofStart (Bytes.slice 1 addressSize raw)
    requestType := RequestType.ofNumber? (raw.getD (1 + addressSize) 0).toNat
    name := Bytes.trimRight (Bytes.slice (2 + addressSize) nameSize raw)
    fileId := raw.getD (2 + addressSize + nameSize) 0
    tail := Bytes.slice (3 + addressSize + nameSize) dataSize raw }

def data (r : RequestRecord) : Bytes := Bytes.trimRight r.tail

def position? (r : RequestRecord) : Option Nat :=
  if r.requestType = some .setPosition then some (Bytes.toNatLE (r.tail.take 8)) else none

/-- The name as text, U+FFFD standing for what is not UTF-8. -/
def nameText (r : RequestRecord) : String := Text.Utf8.decodeLossy r.name

end RequestRecord

end StorageAgent
