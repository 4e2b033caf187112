import StorageAgent.Bytes

/-!
# Base58 and base64

Addresses and signatures are shown in base58, transactions and account data are
sent in base64.
-/
namespace StorageAgent.Base58

/-! ## Base58

A byte string is its leading zero bytes, each written `1`, followed by the
base-58 digits of the integer that the other bytes spell, most significant
first. Nothing else is written, so a text stands for at most one byte string. -/

/-- The digits in the order of their values. -/
def alphabet : List Char :=
  "123456789ABCDEFGHJKLMNPQRSTUVWXYZabcdefghijkmnopqrstuvwxyz".toList

def digit (n : Nat) : Char := alphabet.getD n '1'

def value? (c : Char) : Option Nat := alphabet.idxOf? c

/-- The digits of `n` in front of `tail`, none for zero; `width` bounds their number. -/
def digits : Nat → Nat → List Char → List Char
  | 0, _, tail => tail
  | width + 1, n, tail => if n = 0 then tail else digits width (n / 58) (digit (n % 58) :: tail)

def leadingZeros (bytes : Bytes) : Nat := (bytes.takeWhile (· == 0)).length

/-- The text of a byte string. Two digits hold more than one byte. -/
def encode (bytes : Bytes) : String :=
  String.ofList
    (List.replicate (leadingZeros bytes) '1' ++ digits (2 * bytes.length) (Bytes.toNatBE bytes) [])

/-- The bytes of `n` in front of `tail`, most significant first, none for zero; `width` bounds
their number. -/
def minimalBytes : Nat → Nat → Bytes → Bytes
  | 0, _, tail => tail
  | width + 1, n, tail =>
    if n = 0 then tail else minimalBytes width (n / 256) (UInt8.ofNat (n % 256) :: tail)

def decode? (text : String) : Option Bytes := do
  let values ← text.toList.mapM value?
  let zeros := (values.takeWhile (· == 0)).length
  let n := values.foldl (fun n v => 58 * n + v) 0
  return List.replicate zeros 0 ++ minimalBytes values.length n []

end StorageAgent.Base58

namespace StorageAgent.Base64

/-! ## Base64

`encode` writes the standard alphabet with padding. `decode` is lenient: it
skips every character outside the alphabet, stops at padding that completes a
group, and refuses only a text whose last group is left incomplete. -/

/-- The digits in the order of their values. -/
def alphabet : List Char :=
  "ABCDEFGHIJKLMNOPQRSTUVWXYZabcdefghijklmnopqrstuvwxyz0123456789+/".toList

def digit (n : Nat) : Char := alphabet.getD n 'A'

def value? (c : Char) : Option Nat := alphabet.idxOf? c

/-- The digits of a byte string, four for every three bytes. -/
def encodeChars : Bytes → List Char
  | [] => []
  | [a] => [digit (a.toNat / 4), digit (a.toNat % 4 * 16), '=', '=']
  | [a, b] =>
    [digit (a.toNat / 4), digit (a.toNat % 4 * 16 + b.toNat / 16), digit (b.toNat % 16 * 4), '=']
  | a :: b :: c :: rest =>
    digit (a.toNat / 4) :: digit (a.toNat % 4 * 16 + b.toNat / 16) ::
      digit (b.toNat % 16 * 4 + c.toNat / 64) :: digit (c.toNat % 64) :: encodeChars rest

def encode (bytes : Bytes) : String := String.ofList (encodeChars bytes)

/-- Why a text cannot be decoded. -/
inductive Fault where
  /-- It has a character above U+007F. -/
  | notAscii
  /-- Its last group is incomplete. -/
  | incomplete
  deriving DecidableEq, Repr

/-- Where the reader stands in a group of four digits: how many it has read, the bits not yet
written, and the padding seen since the last digit. -/
structure Position where
  count : Nat
  bits : Nat
  pads : Nat

def Position.start : Position := ⟨0, 0, 0⟩

/-- The bytes of the digits that follow a position. -/
def decodeChars : Position → List Char → Option Bytes
  | p, [] => if p.count = 0 then some [] else none
  | p, c :: rest =>
    if c = '=' then
      if p.count < 2 then decodeChars p rest
      else if 4 ≤ p.count + p.pads + 1 then some []
      else decodeChars { p with pads := p.pads + 1 } rest
    else
      match value? c with
      | none => decodeChars p rest
      | some v =>
        if p.count = 0 then decodeChars ⟨1, v, 0⟩ rest
        else if p.count = 1 then
          (decodeChars ⟨2, v % 16, 0⟩ rest).map (UInt8.ofNat (p.bits * 4 + v / 16) :: ·)
        else if p.count = 2 then
          (decodeChars ⟨3, v % 4, 0⟩ rest).map (UInt8.ofNat (p.bits * 16 + v / 4) :: ·)
        else
          (decodeChars Position.start rest).map (UInt8.ofNat (p.bits * 64 + v) :: ·)

def decode (text : String) : Except Fault Bytes :=
  if text.toList.any (fun c => 0x7F < c.toNat) then .error .notAscii
  else
    match decodeChars Position.start text.toList with
    | some bytes => .ok bytes
    | none => .error .incomplete

end StorageAgent.Base64
