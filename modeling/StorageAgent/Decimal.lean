/-!
# Decimals

Doubles as exact numbers, and their texts: the shortest decimal that reads back,
and decimals with a given number of places or digits. Every rounding is to the
nearest, a half going to the even neighbour.
-/
namespace StorageAgent.Decimal

/-! ## Doubles as exact numbers

A finite double is a sign and `significand * 2 ^ exponent`. `nearest` goes the other way: the
double nearest to a quotient of integers. -/

def twoPow (n : Nat) : Nat := Nat.shiftLeft 1 n

def tenPow (n : Nat) : Nat := Nat.pow 10 n

/-- What the bits of a double say. -/
inductive Parts where
  | nan
  | infinite (negative : Bool)
  /-- The magnitude is `significand * 2 ^ exponent`. -/
  | finite (negative : Bool) (significand : Nat) (exponent : Int)

def parts (x : Float) : Parts :=
  let bits := x.toBits.toNat
  let negative := decide (twoPow 63 ≤ bits)
  let field := bits / twoPow 52 % 2048
  let fraction := bits % twoPow 52
  if field = 2047 then if fraction = 0 then .infinite negative else .nan
  else if field = 0 then .finite negative fraction (-1074)
  else .finite negative (fraction + twoPow 52) (field - 1075)

/-- The integer nearest to `num / den`, a half going to the even one. -/
def roundDiv (num den : Nat) : Nat :=
  let q := num / den
  let r := num % den
  if 2 * r < den then q
  else if den < 2 * r then q + 1
  else if q % 2 = 0 then q else q + 1

/-- `num / (den * 2 ^ e)` as a quotient of naturals. -/
def scaled (num den : Nat) (e : Int) : Nat × Nat :=
  if 0 ≤ e then (num, den * twoPow e.toNat) else (num * twoPow (-e).toNat, den)

/-- The bits of the double nearest to `num / den`; too large a quotient is infinite. -/
def nearestBits (num den : Nat) : Nat :=
  if num = 0 then 0
  else
    let e := (num.log2 : Int) - den.log2 - 52
    -- the quotient has 53 bits or 54, and then one less is the right exponent
    let guess := scaled num den e
    let e := if guess.1 / guess.2 < twoPow 52 then e - 1 else e
    let e := if e < -1074 then -1074 else e
    let exact := scaled num den e
    -- rounding up to the next power of two carries into the exponent, as it should
    let bits := (e + 1074).toNat * twoPow 52 + roundDiv exact.1 exact.2
    if 2047 * twoPow 52 ≤ bits then 2047 * twoPow 52 else bits

/-- The double nearest to `num / den`, with the given sign. -/
def nearest (negative : Bool) (num den : Nat) : Float :=
  Float.ofBits (UInt64.ofNat (nearestBits num den + if negative then twoPow 63 else 0))

def digitCount (n : Nat) : Nat := (Nat.toDigits 10 n).length

/-- The double nearest to `digits * 10 ^ exponent`. Beyond 10 ^ 310 all is infinite, and below
10 ^ -330 all is zero. -/
def ofDecimal (negative : Bool) (digits : Nat) (exponent : Int) : Float :=
  let magnitude := (digitCount digits : Int) + exponent
  if digits = 0 ∨ magnitude < -330 then nearest negative 0 1
  else if 310 < magnitude then nearest negative (twoPow 1100) 1
  else if 0 ≤ exponent then nearest negative (digits * tenPow exponent.toNat) 1
  else nearest negative digits (tenPow (-exponent).toNat)

def isFinite (x : Float) : Bool :=
  match parts x with
  | .finite .. => true
  | _ => false

/-- A finite double cut to an integer, towards zero. -/
def truncate? (x : Float) : Option Int :=
  match parts x with
  | .finite negative m e =>
    let n := if 0 ≤ e then m * twoPow e.toNat else m / twoPow (-e).toNat
    some (if negative then -(n : Int) else n)
  | _ => none

/-- The integer that a double equals, if any. -/
def integer? (x : Float) : Option Int :=
  match parts x with
  | .finite negative m e =>
    if 0 ≤ e then
      let n := m * twoPow e.toNat
      some (if negative then -(n : Int) else n)
    else if m % twoPow (-e).toNat = 0 then
      let n := m / twoPow (-e).toNat
      some (if negative then -(n : Int) else n)
    else none
  | _ => none

/-! ## Shortest decimals

The text of a double is the decimal with the fewest digits that reads back as the same double,
and of those the nearest. It is written positionally from 10 ^ -4 up to 10 ^ 16, with at least
one decimal place, and with an exponent of at least two digits elsewhere.

A decimal reads back if it lies in the interval of the reals that round to the double. The ends
of the interval belong to it if the significand is even, and the lower half is shorter where the
significand is the least of its binade. -/

/-- A positive double over a common denominator: the value, and the ends of the interval of the
reals that round to it. -/
structure Interval where
  value : Nat
  low : Nat
  high : Nat
  den : Nat
  closed : Bool

def Interval.of (m : Nat) (e : Int) : Interval :=
  let below := if m = twoPow 52 ∧ -1074 < e then 1 else 2
  let up := twoPow (e - 2).toNat
  { value := 4 * m * up, low := (4 * m - below) * up, high := (4 * m + 2) * up
    den := twoPow (2 - e).toNat, closed := m % 2 == 0 }

def ltTenPow (v den : Nat) (k : Int) : Bool :=
  decide (v * tenPow (-k).toNat < den * tenPow k.toNat)

/-- The least exponent from `k` on, searched for `fuel` steps, whose power of ten exceeds `v / den`. -/
def magnitudeFrom : Nat → Nat → Nat → Int → Int
  | 0, _, _, k => k
  | fuel + 1, v, den, k => if ltTenPow v den k then k else magnitudeFrom fuel v den (k + 1)

/-- The `k` with `10 ^ (k - 1) <= v / den < 10 ^ k`. The logarithms to base two bound it from below
by at most four. -/
def magnitude (v den : Nat) : Int :=
  magnitudeFrom 6 v den (((v.log2 : Int) - den.log2 - 1) * 30103 / 100000 - 1)

/-- A multiple of `10 ^ f` that reads back, the nearest if there are two. -/
def onGrid? (i : Interval) (f : Int) : Option Nat :=
  let t := tenPow (-f).toNat
  let d := i.den * tenPow f.toNat
  let v := i.value * t
  let inside := fun c =>
    if i.closed then decide (i.low * t ≤ c * d ∧ c * d ≤ i.high * t)
    else decide (i.low * t < c * d ∧ c * d < i.high * t)
  let q := v / d
  if inside q then if inside (q + 1) then some (roundDiv v d) else some q
  else if inside (q + 1) then some (q + 1) else none

/-- The coarsest grid of `n` or more digits, up to `n + fuel`, that holds a decimal that reads back:
the multiple and the exponent of the grid. -/
def searchGrid : Nat → Interval → Int → Nat → Nat × Int
  | 0, i, k, n => (i.value * tenPow (n - k).toNat / (i.den * tenPow (k - n).toNat), k - n)
  | fuel + 1, i, k, n =>
    match onGrid? i (k - n) with
    | some c => (c, k - n)
    | none => searchGrid fuel i k (n + 1)

/-- The shortest decimal of `m * 2 ^ e`, as an integer and an exponent of ten. -/
def shortest (m : Nat) (e : Int) : Nat × Int :=
  let i := Interval.of m e
  searchGrid 17 i (magnitude i.value i.den) 1

def trimZeros (digits : List Char) : List Char := (digits.reverse.dropWhile (· == '0')).reverse

/-- An exponent with its sign and at least two digits. -/
def exponentText (e : Int) : List Char :=
  let digits := Nat.toDigits 10 e.natAbs
  (if e < 0 then '-' else '+') :: (if digits.length < 2 then '0' :: digits else digits)

/-- The decimal `0.ds * 10 ^ point` as text. -/
def layout (ds : List Char) (point : Int) : List Char :=
  if -4 < point ∧ point ≤ 16 then
    if point ≤ 0 then '0' :: '.' :: (List.replicate (-point).toNat '0' ++ ds)
    else if (ds.length : Int) ≤ point then
      ds ++ List.replicate (point.toNat - ds.length) '0' ++ ['.', '0']
    else ds.take point.toNat ++ '.' :: ds.drop point.toNat
  else
    match ds with
    | [] => []
    | [d] => d :: 'e' :: exponentText (point - 1)
    | d :: more => d :: '.' :: (more ++ 'e' :: exponentText (point - 1))

def text (x : Float) : String :=
  match parts x with
  | .nan => "nan"
  | .infinite negative => if negative then "-inf" else "inf"
  | .finite negative m e =>
    let body :=
      if m = 0 then ['0', '.', '0']
      else
        let (c, f) := shortest m e
        let digits := Nat.toDigits 10 c
        layout (trimZeros digits) (digits.length + f)
    String.ofList (if negative then '-' :: body else body)

/-! ## Fixed decimals -/

def fixedDigits (places n : Nat) : List Char :=
  let digits := Nat.toDigits 10 n
  let padded := List.replicate (places + 1 - digits.length) '0' ++ digits
  let whole := padded.length - places
  if places = 0 then padded else padded.take whole ++ '.' :: padded.drop whole

def fixed (places : Nat) (x : Float) : String :=
  match parts x with
  | .nan => "nan"
  | .infinite negative => if negative then "-inf" else "inf"
  | .finite negative m e =>
    let n := roundDiv (m * twoPow e.toNat * tenPow places) (twoPow (-e).toNat)
    let body := fixedDigits places n
    String.ofList (if negative then '-' :: body else body)

/-! ## Scientific decimals

`general` chooses between the scientific form and the fixed one by the size of the exponent. A
form that is `exact` keeps its point and its zeros even where they say nothing. -/

/-- The digits, `places + 1` of them, and the exponent of `m * 2 ^ e`. -/
def scientificDigits (places m : Nat) (e : Int) : List Char × Int :=
  if m = 0 then (List.replicate (places + 1) '0', 0)
  else
    let num := m * twoPow e.toNat
    let den := twoPow (-e).toNat
    let k := magnitude num den - 1
    let shift := (places : Int) - k
    let n := roundDiv (num * tenPow shift.toNat) (den * tenPow (-shift).toNat)
    let digits := Nat.toDigits 10 n
    if digits.length = places + 1 then (digits, k) else (digits.take (places + 1), k + 1)

/-- A whole number and decimal places, with a point between them if there are any. -/
def joinPlaces (exact : Bool) (whole places : List Char) : List Char :=
  if places.isEmpty && !exact then whole else whole ++ '.' :: places

/-- The texts of doubles that are not finite, and the given text of those that are. -/
def spelled (x : Float) (finite : Nat → Int → List Char) : String :=
  match parts x with
  | .nan => "nan"
  | .infinite negative => if negative then "-inf" else "inf"
  | .finite negative m e =>
    let body := finite m e
    String.ofList (if negative then '-' :: body else body)

def positional (exact : Bool) (places : Nat) (x : Float) : String :=
  if exact && places == 0 && isFinite x then fixed places x ++ "." else fixed places x

def scientific (exact : Bool) (places : Nat) (x : Float) : String :=
  spelled x fun m e =>
    let (digits, k) := scientificDigits places m e
    joinPlaces exact (digits.take 1) (digits.drop 1) ++ 'e' :: exponentText k

/-- A double with `precision` significant digits, zero counting as one, without trailing zeros unless
it is exact: positional if the exponent is at least -4 and below the precision. -/
def general (exact : Bool) (precision : Nat) (x : Float) : String :=
  let significant := if precision = 0 then 1 else precision
  let trim := fun digits => if exact then digits else trimZeros digits
  spelled x fun m e =>
    let (digits, k) := scientificDigits (significant - 1) m e
    if -4 ≤ k ∧ k < significant then
      if k < 0 then
        match trim digits with
        | [] => ['0']
        | ds => '0' :: '.' :: (List.replicate (-k - 1).toNat '0' ++ ds)
      else joinPlaces exact (digits.take (k.toNat + 1)) (trim (digits.drop (k.toNat + 1)))
    else joinPlaces exact (digits.take 1) (trim (digits.drop 1)) ++ 'e' :: exponentText k

end StorageAgent.Decimal
