/-!
# Byte strings

Fixed-width little-endian integers and zero padding, the two shapes that the
program's payloads and accounts are made of.

* `ofNatLE` / `toNatLE`: an integer in a given number of bytes, least
  significant byte first.
* `padRight` / `trimRight`: zero padding on the right, and its removal.
-/
namespace StorageAgent

abbrev Bytes := List UInt8

namespace Bytes

/-- `n` in exactly `width` bytes, least significant first; what does not fit is dropped. -/
def ofNatLE : Nat → Nat → Bytes
  | 0, _ => []
  | width + 1, n => UInt8.ofNat (n % 256) :: ofNatLE width (n / 256)

/-- The integer whose bytes these are, least significant first. -/
def toNatLE : Bytes → Nat
  | [] => 0
  | b :: rest => b.toNat + 256 * toNatLE rest

/-- `n` in exactly `width` bytes, most significant first. -/
def ofNatBE (width n : Nat) : Bytes := (ofNatLE width n).reverse

def toNatBE (bytes : Bytes) : Nat := toNatLE bytes.reverse

/-- `bytes` followed by zeros up to `size` bytes. -/
def padRight (size : Nat) (bytes : Bytes) : Bytes :=
  bytes ++ List.replicate (size - bytes.length) 0

/-- `bytes` without its trailing zeros. -/
def trimRight : Bytes → Bytes
  | [] => []
  | b :: rest =>
    match trimRight rest with
    | [] => if b = 0 then [] else [b]
    | kept => b :: kept

/-- Byte strings ordered as a dictionary orders words. -/
def precedes : Bytes → Bytes → Bool
  | [], [] => false
  | [], _ :: _ => true
  | _ :: _, [] => false
  | a :: as, b :: bs => if a < b then true else if b < a then false else precedes as bs

/-! ## Hexadecimal -/

def hexDigit (n : Nat) : Char :=
  if n < 10 then Char.ofNat (48 + n) else Char.ofNat (87 + n)

def hexValue? (c : Char) : Option Nat :=
  let n := c.toNat
  if 48 ≤ n ∧ n ≤ 57 then some (n - 48)
  else if 97 ≤ n ∧ n ≤ 102 then some (n - 87)
  else if 65 ≤ n ∧ n ≤ 70 then some (n - 55)
  else none

def toHex (bytes : Bytes) : String :=
  String.ofList (bytes.flatMap fun b => [hexDigit (b.toNat / 16), hexDigit (b.toNat % 16)])

def ofHexDigits? : List Char → Option Bytes
  | [] => some []
  | [_] => none
  | a :: b :: rest => do
    let high ← hexValue? a
    let low ← hexValue? b
    let tail ← ofHexDigits? rest
    return UInt8.ofNat (16 * high + low) :: tail

def ofHex? (text : String) : Option Bytes := ofHexDigits? text.toList

/-! ## Lengths and inverses -/

theorem length_ofNatLE (width n : Nat) : (ofNatLE width n).length = width := by
  induction width generalizing n with
  | zero => rfl
  | succ width ih => simp [ofNatLE, ih]

theorem length_padRight (size : Nat) (bytes : Bytes) (h : bytes.length ≤ size) :
    (padRight size bytes).length = size := by
  simp [padRight]; omega

end Bytes
end StorageAgent
