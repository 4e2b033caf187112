import StorageAgent.Crypto.Sha2

/-!
# Ed25519

The signature scheme of RFC 8032 over the twisted Edwards curve
`-x^2 + y^2 = 1 + d x^2 y^2` modulo `p = 2^255 - 19`. Field elements are
naturals below `p`, and points are kept in extended coordinates.

* `decompress?`: the point that 32 bytes name, if they name one.
* `publicKey`, `sign`, `verify`: the scheme. Verification takes the canonical
  scalar only, and refuses keys and commitments of small order.
-/
namespace StorageAgent.Crypto.Ed25519

/-! ## The field -/

/-- The characteristic, `2^255 - 19`. -/
def p : Nat := 0x7fffffffffffffffffffffffffffffffffffffffffffffffffffffffffffffed

def order : Nat := 0x1000000000000000000000000000000014def9dea2f79cd65812631a5cf5d3ed

/-- The curve constant. -/
def d : Nat := 0x52036cee2b6ffe738cc740797779e89800700a4d4141d8ab75eb4dca135978a3

/-- A square root of -1. -/
def sqrtMinusOne : Nat := 0x2b8324804fc1df0b2b4d00993dfbd7a72f431806ad2fe478c4ee1b274a0ea0b0

def add (a b : Nat) : Nat := (a + b) % p

def sub (a b : Nat) : Nat := (a + (p - b)) % p

def mul (a b : Nat) : Nat := a * b % p

/-- The power of `base` whose exponent is written in binary by the low `bits` bits of `e`, times `acc`. -/
def powBits : Nat → Nat → Nat → Nat → Nat
  | 0, _, _, acc => acc
  | bits + 1, base, e, acc =>
    powBits bits (mul base base) (e / 2) (if e % 2 = 1 then mul acc base else acc)

def pow (base e : Nat) : Nat := powBits 256 base e 1

def inv (a : Nat) : Nat := pow a (p - 2)

/-- A square root of `u / v`, if there is one: `u v^3 (u v^7)^((p - 5) / 8)` up to a root of -1. -/
def sqrtRatio? (u v : Nat) : Option Nat :=
  let v3 := mul v (mul v v)
  let r := mul (mul u v3) (pow (mul u (mul v3 (mul v3 v))) ((p - 5) / 8))
  let check := mul v (mul r r)
  if check = u % p then some r
  else if check = sub 0 (u % p) then some (mul r sqrtMinusOne)
  else none

/-! ## The curve -/

/-- A point in extended coordinates: `x = X / Z`, `y = Y / Z`, `x y = T / Z`. -/
structure Point where
  X : Nat
  Y : Nat
  Z : Nat
  T : Nat

def Point.neutral : Point := ⟨0, 1, 1, 0⟩

def Point.ofAffine (x y : Nat) : Point := ⟨x, y, 1, mul x y⟩

def Point.base : Point :=
  Point.ofAffine 0x216936d3cd6e53fec0a4e231fdd6dc5c692cc7609525a7b2c9562d608f25d51a
    0x6666666666666666666666666666666666666666666666666666666666666658

def Point.add (P Q : Point) : Point :=
  let a := mul (sub P.Y P.X) (sub Q.Y Q.X)
  let b := mul (Ed25519.add P.Y P.X) (Ed25519.add Q.Y Q.X)
  let c := mul (mul (2 * d % p) P.T) Q.T
  let e := mul (2 * P.Z) Q.Z
  let f := sub b a
  let g := sub e c
  let h := Ed25519.add e c
  let i := Ed25519.add b a
  ⟨mul f g, mul h i, mul g h, mul f i⟩

def Point.neg (P : Point) : Point := ⟨sub 0 P.X, P.Y, P.Z, sub 0 P.T⟩

/-- The multiple of `P` by the low `bits` bits of `n`, plus `acc`. -/
def Point.smulBits : Nat → Nat → Point → Point → Point
  | 0, _, _, acc => acc
  | bits + 1, n, P, acc =>
    Point.smulBits bits (n / 2) (P.add P) (if n % 2 = 1 then acc.add P else acc)

/-- The multiple of `P` by `n < 2^256`. -/
def Point.smul (n : Nat) (P : Point) : Point := Point.smulBits 256 n P Point.neutral

def Point.isNeutral (P : Point) : Bool := P.X % p == 0 && P.Y % p == P.Z % p

/-- Whether eight times the point is the neutral one. -/
def Point.hasSmallOrder (P : Point) : Bool := (P.smul 8).isNeutral

/-- The 32 bytes of a point: `y`, and the lowest bit of `x` on top. -/
def Point.compress (P : Point) : Bytes :=
  let z := inv P.Z
  let x := mul P.X z
  let y := mul P.Y z
  Bytes.ofNatLE 32 (y + x % 2 * 0x8000000000000000000000000000000000000000000000000000000000000000)

/-- The point that 32 bytes name: the low 255 bits are `y`, reduced modulo `p`, and the top bit
chooses between the two `x`. -/
def decompress? (bytes : Bytes) : Option Point :=
  let n := Bytes.toNatLE bytes
  let top := 0x8000000000000000000000000000000000000000000000000000000000000000
  let y := n % top % p
  let y2 := mul y y
  (sqrtRatio? (sub y2 1) (add (mul d y2) 1)).map fun x =>
    Point.ofAffine (if x % 2 = n / top % 2 then x else sub 0 x) y

def isPoint (bytes : Bytes) : Bool := (decompress? bytes).isSome

/-! ## Signatures -/

/-- The secret scalar and the nonce key of a seed. -/
def expand (seed : Bytes) : Nat × Bytes :=
  let h := Sha512.hash seed
  let n := Bytes.toNatLE (h.take 32)
  let high := 0x4000000000000000000000000000000000000000000000000000000000000000
  (n % high / 8 * 8 + high, h.drop 32)

def publicKey (seed : Bytes) : Bytes := (Point.base.smul (expand seed).1).compress

def hashScalar (bytes : Bytes) : Nat := Bytes.toNatLE (Sha512.hash bytes) % order

/-- The signature of a message: 32 bytes of commitment and 32 bytes of scalar. -/
def sign (seed message : Bytes) : Bytes :=
  let (a, nonceKey) := expand seed
  let key := (Point.base.smul a).compress
  let r := hashScalar (nonceKey ++ message)
  let commitment := (Point.base.smul r).compress
  let k := hashScalar (commitment ++ key ++ message)
  commitment ++ Bytes.ofNatLE 32 ((r + k * a) % order)

/-- Whether 32 bytes hold `y` below `p`. -/
def isCanonical (bytes : Bytes) : Bool :=
  decide (Bytes.toNatLE bytes % 0x8000000000000000000000000000000000000000000000000000000000000000 < p)

/-- Whether a signature of 64 bytes by `key` fits a message. -/
def verify (key message signature : Bytes) : Bool :=
  let commitment := signature.take 32
  let s := Bytes.toNatLE (signature.drop 32)
  match decompress? key, decompress? commitment with
  | some A, some R =>
    let k := hashScalar (commitment ++ key ++ message)
    decide (s < order) && isCanonical key && !A.hasSmallOrder && !R.hasSmallOrder &&
      ((Point.base.smul s).add (A.smul k).neg).compress == commitment
  | _, _ => false

end StorageAgent.Crypto.Ed25519
