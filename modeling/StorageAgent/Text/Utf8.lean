import StorageAgent.Bytes

/-!
# UTF-8

Encoding of scalar values, and one decoder that reports each malformed part
where it stands. A malformed part is the longest run of bytes that could still
have become a character (Unicode 14, section 3.9, "maximal subpart").

* `decode?` refuses a byte string that has a malformed part.
* `decodeLossy` puts U+FFFD for each malformed part.
-/
namespace StorageAgent.Text.Utf8

/-- The bytes of one scalar value. -/
def encodeChar (c : Char) : Bytes :=
  let n := c.toNat
  if n < 0x80 then [UInt8.ofNat n]
  else if n < 0x800 then [UInt8.ofNat (0xC0 + n / 64), UInt8.ofNat (0x80 + n % 64)]
  else if n < 0x10000 then
    [UInt8.ofNat (0xE0 + n / 4096), UInt8.ofNat (0x80 + n / 64 % 64), UInt8.ofNat (0x80 + n % 64)]
  else
    [UInt8.ofNat (0xF0 + n / 262144), UInt8.ofNat (0x80 + n / 4096 % 64),
      UInt8.ofNat (0x80 + n / 64 % 64), UInt8.ofNat (0x80 + n % 64)]

def encode (text : String) : Bytes := text.toList.flatMap encodeChar

/-- A character that has begun: the bits read so far, the number of bytes still
owed, and the least and the greatest byte that may come next. -/
structure Pending where
  value : Nat
  owed : Nat
  low : Nat
  high : Nat

/-- What a byte does between characters: it is one, begins one, or is malformed (`none`). -/
def first (b : UInt8) : List (Option Char) × Option Pending :=
  let n := b.toNat
  if n < 0x80 then ([some (Char.ofNat n)], none)
  else if n < 0xC2 then ([none], none)
  else if n < 0xE0 then ([], some ⟨n - 0xC0, 1, 0x80, 0xBF⟩)
  else if n = 0xE0 then ([], some ⟨0, 2, 0xA0, 0xBF⟩)
  else if n = 0xED then ([], some ⟨13, 2, 0x80, 0x9F⟩)
  else if n < 0xF0 then ([], some ⟨n - 0xE0, 2, 0x80, 0xBF⟩)
  else if n = 0xF0 then ([], some ⟨0, 3, 0x90, 0xBF⟩)
  else if n < 0xF4 then ([], some ⟨n - 0xF0, 3, 0x80, 0xBF⟩)
  else if n = 0xF4 then ([], some ⟨4, 3, 0x80, 0x8F⟩)
  else ([none], none)

/-- What a byte does: it continues the character that has begun, or leaves it malformed and
stands for itself. -/
def step : Option Pending → UInt8 → List (Option Char) × Option Pending
  | none, b => first b
  | some p, b =>
    if p.low ≤ b.toNat ∧ b.toNat ≤ p.high then
      let value := p.value * 64 + (b.toNat - 0x80)
      if p.owed = 1 then ([some (Char.ofNat value)], none)
      else ([], some ⟨value, p.owed - 1, 0x80, 0xBF⟩)
    else
      let next := first b
      (none :: next.1, next.2)

/-- The characters of a byte string, `none` for each malformed part. -/
def units : Option Pending → Bytes → List (Option Char)
  | none, [] => []
  | some _, [] => [none]
  | state, b :: rest =>
    let next := step state b
    next.1 ++ units next.2 rest

/-- The text of well-formed bytes. -/
def decode? (bytes : Bytes) : Option String :=
  ((units none bytes).mapM id).map String.ofList

/-- The text of any bytes, U+FFFD standing for each malformed part. -/
def decodeLossy (bytes : Bytes) : String :=
  String.ofList ((units none bytes).map (·.getD (Char.ofNat 0xFFFD)))

end StorageAgent.Text.Utf8
