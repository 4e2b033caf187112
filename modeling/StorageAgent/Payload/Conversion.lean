import StorageAgent.Error.Failure
import StorageAgent.Payload.Codec

/-!
# Conversion to bytes

How a value of any kind becomes a byte string where one is needed: a number
becomes as many zeros, and a list the bytes that its items are. How long a byte
string can be depends on the memory of the machine.
-/
namespace StorageAgent

/-- The greatest length that a number of the machine can stand for. -/
def lengthLimit : Nat := 9223372036854775807

/-- The bytes that the machine needs for a byte string besides its contents. -/
def lengthOverhead : Nat := 33

/-- The fault of a byte string that is too long for a machine with so much memory. -/
def lengthFault? (memory length : Nat) : Option FaultKind :=
  if lengthLimit < length + lengthOverhead then some .overflow
  else if memory ≤ length then some .memory
  else none

namespace Argument

/-- The bytes of an argument with zeros on the right up to `size` bytes. Nothing is cut off. -/
def padded (memory : Nat) (size : Int) (field : String) (a : Argument) : Except Failure Bytes := do
  let b ← (a.toBytes field).mapError Failure.input
  if size < b.length then throw (Failure.input (.tooLarge field b.length size))
  match lengthFault? memory size.toNat with
  | some kind => throw (Failure.of kind)
  | none => return Bytes.padRight size.toNat b

def item : Json → Except Failure UInt8
  | .bool b => .ok (if b then 1 else 0)
  | .int n => if 0 ≤ n ∧ n ≤ 255 then .ok (UInt8.ofNat n.toNat) else .error (Failure.of .badValue)
  | _ => .error (Failure.of .wrongKind)

/-- As many zeros as a number says. A number beyond the machine's own cannot be looked at. -/
def ofCount (memory : Nat) (n : Int) : Except Failure Argument :=
  if n < -(lengthLimit + 1 : Int) then .error (Failure.of .overflow)
  else if n < 0 then .error (Failure.of .badValue)
  else
    match lengthFault? memory n.toNat with
    | some kind => .error (Failure.of kind)
    | none => .ok (zeros n.toNat)

/-- The byte string that a value becomes. A text has no bytes of its own. -/
def convert (memory : Nat) : Argument → Except Failure Argument
  | bool b => ofCount memory (if b then 1 else 0)
  | int n => ofCount memory n
  | bytes b => .ok (bytes b)
  | buffer b => .ok (bytes b)
  | zeros count => .ok (zeros count)
  | list items => (items.mapM item).map bytes
  | _ => .error (Failure.of .wrongKind)

/-- The byte string that a value becomes, a text by its UTF-8 form. -/
def convertText (memory : Nat) : Argument → Except Failure Argument
  | text s => .ok (bytes (Text.Utf8.encode s))
  | a => a.convert memory

end Argument
end StorageAgent
