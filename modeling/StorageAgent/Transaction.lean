import StorageAgent.Message

/-!
# Transactions

The legacy wire format: the signatures, then the message they sign. Lengths are
written in groups of seven bits, lowest first, every byte but the last with its
top bit set (`compactLength`).

`Transaction.bytes` writes a transaction and `Transaction.parse?` reads one. The
readers take the bytes that are left and return what they read with the rest.
-/
namespace StorageAgent

/-! ## Writing -/

/-- A length below 2 ^ 21 in one to three bytes. -/
def compactLength (n : Nat) : Bytes :=
  if n < 0x80 then [UInt8.ofNat n]
  else if n < 0x4000 then [UInt8.ofNat (n % 0x80 + 0x80), UInt8.ofNat (n / 0x80)]
  else [UInt8.ofNat (n % 0x80 + 0x80), UInt8.ofNat (n / 0x80 % 0x80 + 0x80), UInt8.ofNat (n / 0x4000)]

def CompiledInstruction.bytes (i : CompiledInstruction) : Bytes :=
  UInt8.ofNat i.program ::
    (compactLength i.accounts.length ++ i.accounts.map UInt8.ofNat ++
      compactLength i.data.length ++ i.data)

def Header.bytes (h : Header) : Bytes :=
  [UInt8.ofNat h.signers, UInt8.ofNat h.readonlySigners, UInt8.ofNat h.readonlyOthers]

/-- The bytes of a message, which are what is signed. -/
def Message.bytes (m : Message) : Bytes :=
  m.header.bytes ++ compactLength m.keys.length ++ m.keys.flatMap (·.bytes) ++ m.blockhash.bytes ++
    compactLength m.instructions.length ++ m.instructions.flatMap (·.bytes)

def signatureSize : Nat := 64

/-- A message with signatures. -/
structure Transaction where
  signatures : List Bytes
  message : Message

def Transaction.bytes (t : Transaction) : Bytes :=
  compactLength t.signatures.length ++ t.signatures.flatten ++ t.message.bytes

/-! ## Reading -/

def takeExactly? (n : Nat) (b : Bytes) : Option (Bytes × Bytes) :=
  if n ≤ b.length then some (b.take n, b.drop n) else none

def readLength? : Bytes → Option (Nat × Bytes)
  | a :: rest =>
    if a.toNat < 0x80 then some (a.toNat, rest)
    else
      match rest with
      | b :: rest =>
        if b.toNat < 0x80 then some (a.toNat - 0x80 + 0x80 * b.toNat, rest)
        else
          match rest with
          | c :: rest =>
            some (a.toNat - 0x80 + 0x80 * (b.toNat - 0x80) + 0x4000 * c.toNat, rest)
          | [] => none
      | [] => none
  | [] => none

def readMany? {α : Type} (read? : Bytes → Option (α × Bytes)) : Nat → Bytes → Option (List α × Bytes)
  | 0, b => some ([], b)
  | n + 1, b => do
    let (item, b) ← read? b
    let (items, b) ← readMany? read? n b
    return (item :: items, b)

/-- Items after their number. -/
def readList? {α : Type} (read? : Bytes → Option (α × Bytes)) (b : Bytes) :
    Option (List α × Bytes) := do
  let (n, b) ← readLength? b
  readMany? read? n b

def readByte? : Bytes → Option (UInt8 × Bytes)
  | b :: rest => some (b, rest)
  | [] => none

def Address.read? (b : Bytes) : Option (Address × Bytes) := do
  let (bytes, b) ← takeExactly? addressSize b
  let a ← Address.ofBytes? bytes
  return (a, b)

def CompiledInstruction.read? (b : Bytes) : Option (CompiledInstruction × Bytes) := do
  let (program, b) ← readByte? b
  let (accounts, b) ← readList? readByte? b
  let (data, b) ← readList? readByte? b
  return (⟨program.toNat, accounts.map (·.toNat), data⟩, b)

def Message.read? (b : Bytes) : Option (Message × Bytes) := do
  let (signers, b) ← readByte? b
  let (readonlySigners, b) ← readByte? b
  let (readonlyOthers, b) ← readByte? b
  let (keys, b) ← readList? Address.read? b
  let (hash, b) ← takeExactly? addressSize b
  let blockhash ← Blockhash.ofBytes? hash
  let (instructions, b) ← readList? CompiledInstruction.read? b
  return (⟨⟨signers.toNat, readonlySigners.toNat, readonlyOthers.toNat⟩, keys, blockhash, instructions⟩, b)

/-- The transaction that all the bytes make. -/
def Transaction.parse? (b : Bytes) : Option Transaction := do
  let (signatures, b) ← readList? (takeExactly? signatureSize) b
  let (message, b) ← Message.read? b
  if b.isEmpty then return ⟨signatures, message⟩ else none

end StorageAgent
