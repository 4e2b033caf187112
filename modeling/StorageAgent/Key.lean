import StorageAgent.Envelope
import StorageAgent.Json.Reader
import StorageAgent.Path

/-!
# Keys

An ed25519 key is made from its seed of 32 bytes. A secret key is the seed
followed by the public key, 64 bytes in all, and a keypair file holds these
bytes as a JSON array.
-/
namespace StorageAgent

def seedSize : Nat := 32

def secretSize : Nat := 64

/-- A key that can sign. Its address is the public key. -/
structure Key where
  seed : Bytes
  size : seed.length = seedSize
  address : Address
  address_eq : address = Address.ofStart (Crypto.Ed25519.publicKey seed)

namespace Key

def ofSeed (seed : Bytes) : Except SigningFault Key :=
  if h : seed.length = seedSize then
    .ok ⟨seed, h, Address.ofStart (Crypto.Ed25519.publicKey seed), rfl⟩
  else .error (.seedSize seed.length)

/-- The key of a secret key, if its second half is the public key of the first. -/
def ofSecret (secret : Bytes) : Except SigningFault Key := do
  if secret.length ≠ secretSize then throw (.secretSize secret.length)
  let key ← ofSeed (secret.take seedSize)
  if key.address.bytes ≠ secret.drop seedSize then throw .halvesDiffer
  return key

def sign (key : Key) (message : Bytes) : Bytes := Crypto.Ed25519.sign key.seed message

/-- How a key is shown. The seed is not. -/
def shown (key : Key) : String := "NaclKeyProvider(public_key=" ++ key.address.text ++ ")"

/-- A number from 0 to 255. A truth value counts as 0 or 1. -/
def byteOf? : Json → Option UInt8
  | .bool b => some (if b then 1 else 0)
  | .int n => if 0 ≤ n ∧ n ≤ 255 then some (UInt8.ofNat n.toNat) else none
  | _ => none

def bytesOf? : Json → Option Bytes
  | .list items => items.mapM byteOf?
  | _ => none

/-- The key in the content of a keypair file, whose lists and objects are read `nesting` deep. -/
def ofContent (nesting : Nat) (path : String) (content : Bytes) : Except Failure Key :=
  match Text.Utf8.decode? content with
  | none => .error (Failure.of .undecodable)
  | some text =>
    -- a byte order mark is well-formed text, but no JSON begins with it
    if text.startsWith "\ufeff" then .error (.client (.signing (.fileNotJson path)))
    else
      match Json.parse nesting text with
      | .error .malformed => .error (.client (.signing (.fileNotJson path)))
      | .error fault => .error (Failure.ofJsonFault fault)
      | .ok value =>
        match bytesOf? value with
        | none => .error (.client (.signing (.fileNotBytes path)))
        | some bytes => (ofSecret bytes).mapError fun fault => .client (.signing fault)

/-- The key in the file at a path, as `files` has it. No file has a name with a NUL. -/
def ofFile (nesting : Nat) (homes : Homes) (files : Path → FileEntry) (path : Path) :
    Except Failure Key := do
  let path ← path.expand homes
  if path.text.toList.contains '\x00' then throw (Failure.of .badValue)
  match files path with
  | .missing => .error (.client (.signing (.fileMissing path.text)))
  | .unreadable kind => .error (Failure.of kind)
  | .content content => ofContent nesting path.text content

end Key
end StorageAgent
