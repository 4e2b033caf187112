import StorageAgent.Json.Basic
import StorageAgent.Text.Utf8

/-!
# Reading JSON

The grammar of RFC 8259, with `NaN`, `Infinity` and `-Infinity` as numbers. Of
repeated members the last value counts, at the place of the first. An integer
has at most 4300 digits, and how deep lists and objects may be nested depends on
the reader; either limit is a fault of its own.

The functions take the characters that are left and return what they read with
the rest. `fuel` bounds the number of nested calls; a text of `n` characters
needs no more than `2 * n + 2`.

A text of this library has no lone surrogates. Where a source escapes one, or a
body encodes one, there is U+FFFD in its place here, although other readers keep
it (`joinSurrogates`, `withoutSurrogates`).
-/
namespace StorageAgent.Json

/-- Why a text is not JSON. -/
inductive Fault where
  /-- It does not follow the grammar. -/
  | malformed
  /-- It has an integer of too many digits. -/
  | tooManyDigits
  /-- Its lists and objects are nested too deeply. -/
  | tooDeep
  deriving DecidableEq, Repr

/-- The most digits that an integer may have. -/
def digitLimit : Nat := 4300

def isGap (c : Char) : Bool := c == ' ' || c == '\t' || c == '\n' || c == '\r'

def skipGap (chars : List Char) : List Char := chars.dropWhile isGap

def isDigit (c : Char) : Bool := decide (48 ≤ c.toNat ∧ c.toNat ≤ 57)

def digitsValue (digits : List Char) : Nat := digits.foldl (fun n c => 10 * n + (c.toNat - 48)) 0

/-! ## Texts -/

/-- The character of a one-letter escape. -/
def escaped? : Char → Option Nat
  | '"' => some 34
  | '\\' => some 92
  | '/' => some 47
  | 'b' => some 8
  | 'f' => some 12
  | 'n' => some 10
  | 'r' => some 13
  | 't' => some 9
  | _ => none

def hexQuad? (a b c d : Char) : Option Nat := do
  let a ← Bytes.hexValue? a
  let b ← Bytes.hexValue? b
  let c ← Bytes.hexValue? c
  let d ← Bytes.hexValue? d
  return ((a * 16 + b) * 16 + c) * 16 + d

/-- The numbers of the characters of a text, after its opening quote. An escaped surrogate is a
number of its own. -/
def textUnits : List Char → Except Fault (List Nat × List Char)
  | [] => .error .malformed
  | '"' :: rest => .ok ([], rest)
  | '\\' :: 'u' :: a :: b :: c :: d :: rest => do
    let some n := hexQuad? a b c d | .error .malformed
    let (units, rest) ← textUnits rest
    return (n :: units, rest)
  | '\\' :: e :: rest => do
    let some n := escaped? e | .error .malformed
    let (units, rest) ← textUnits rest
    return (n :: units, rest)
  | c :: rest => do
    -- control characters have to be escaped, and a backslash escapes something
    if c.toNat < 0x20 || c = '\\' then .error .malformed
    let (units, rest) ← textUnits rest
    return (c.toNat :: units, rest)

/-- The text of numbered characters: a high and a low surrogate make one character, and any other
surrogate is shown as U+FFFD. -/
def joinSurrogates : List Nat → List Char
  | [] => []
  | [n] => [if 0xD800 ≤ n ∧ n < 0xE000 then Char.ofNat 0xFFFD else Char.ofNat n]
  | n :: m :: rest =>
    if 0xD800 ≤ n ∧ n < 0xDC00 ∧ 0xDC00 ≤ m ∧ m < 0xE000 then
      Char.ofNat (0x10000 + (n - 0xD800) * 0x400 + (m - 0xDC00)) :: joinSurrogates rest
    else
      (if 0xD800 ≤ n ∧ n < 0xE000 then Char.ofNat 0xFFFD else Char.ofNat n) ::
        joinSurrogates (m :: rest)

/-- The text after an opening quote. -/
def readText (chars : List Char) : Except Fault (String × List Char) := do
  let (units, rest) ← textUnits chars
  return (String.ofList (joinSurrogates units), rest)

/-! ## Numbers -/

/-- The fraction after an integer part: a point and at least one digit. -/
def fraction : List Char → List Char × List Char
  | '.' :: c :: rest =>
    if isDigit c then ((c :: rest).takeWhile isDigit, (c :: rest).dropWhile isDigit)
    else ([], '.' :: c :: rest)
  | chars => ([], chars)

/-- The digits of an exponent, if there is at least one. -/
def exponentDigits? (negative : Bool) (chars : List Char) : Option (Int × List Char) :=
  let digits := chars.takeWhile isDigit
  if digits.isEmpty then none
  else
    let n : Int := digitsValue digits
    some (if negative then -n else n, chars.dropWhile isDigit)

/-- The exponent after the digits of a number, if there is one. -/
def exponent? : List Char → Option (Int × List Char)
  | c :: rest =>
    if c = 'e' ∨ c = 'E' then
      match rest with
      | '-' :: more => exponentDigits? true more
      | '+' :: more => exponentDigits? false more
      | _ => exponentDigits? false rest
    else none
  | [] => none

def unsigned (negative : Bool) (chars : List Char) : Except Fault (Json × List Char) :=
  -- no digit follows a zero at the start, so what does is no part of the number
  let whole :=
    match chars with
    | '0' :: _ => ['0']
    | _ => chars.takeWhile isDigit
  if whole.isEmpty then .error .malformed
  else
    let (places, rest) := fraction (chars.drop whole.length)
    match exponent? rest with
    | some (e, rest) =>
      .ok (float (Decimal.ofDecimal negative (digitsValue (whole ++ places)) (e - places.length)), rest)
    | none =>
      if places.isEmpty then
        if digitLimit < whole.length then .error .tooManyDigits
        else
          let n : Int := digitsValue whole
          .ok (int (if negative then -n else n), rest)
      else
        .ok (float (Decimal.ofDecimal negative (digitsValue (whole ++ places)) (-places.length)), rest)

def readNumber : List Char → Except Fault (Json × List Char)
  | 'N' :: 'a' :: 'N' :: rest => .ok (float (0.0 / 0.0), rest)
  | 'I' :: 'n' :: 'f' :: 'i' :: 'n' :: 'i' :: 't' :: 'y' :: rest => .ok (float (1.0 / 0.0), rest)
  | '-' :: 'I' :: 'n' :: 'f' :: 'i' :: 'n' :: 'i' :: 't' :: 'y' :: rest =>
    .ok (float (-1.0 / 0.0), rest)
  | '-' :: rest => unsigned true rest
  | chars => unsigned false chars

/-! ## Values -/

mutual

/-- A value at the start of the characters. `depth` more lists and objects may be opened. -/
def readValue : Nat → Nat → List Char → Except Fault (Json × List Char)
  | 0, _, _ => .error .malformed
  | fuel + 1, depth, chars =>
    match chars with
    | '"' :: rest => do
      let (s, rest) ← readText rest
      return (text s, rest)
    | '\x7b' :: rest =>
      match depth with
      | 0 => .error .tooDeep
      | depth + 1 =>
        match skipGap rest with
        | '\x7d' :: rest => .ok (object [], rest)
        | rest => readMembers fuel depth [] rest
    | '[' :: rest =>
      match depth with
      | 0 => .error .tooDeep
      | depth + 1 =>
        match skipGap rest with
        | ']' :: rest => .ok (list [], rest)
        | rest => readItems fuel depth [] rest
    | 'n' :: 'u' :: 'l' :: 'l' :: rest => .ok (null, rest)
    | 't' :: 'r' :: 'u' :: 'e' :: rest => .ok (bool true, rest)
    | 'f' :: 'a' :: 'l' :: 's' :: 'e' :: rest => .ok (bool false, rest)
    | _ => readNumber chars

/-- The members that follow those read, up to the closing brace. -/
def readMembers : Nat → Nat → List (String × Json) → List Char → Except Fault (Json × List Char)
  | 0, _, _, _ => .error .malformed
  | fuel + 1, depth, done, chars =>
    match chars with
    | '"' :: rest => do
      let (name, rest) ← readText rest
      match skipGap rest with
      | ':' :: rest =>
        let (value, rest) ← readValue fuel depth (skipGap rest)
        let done := setMember name value done
        match skipGap rest with
        | '\x7d' :: rest => return (object done, rest)
        | ',' :: rest => readMembers fuel depth done (skipGap rest)
        | _ => .error .malformed
      | _ => .error .malformed
    | _ => .error .malformed

/-- The items that follow those read, last first, up to the closing bracket. -/
def readItems : Nat → Nat → List Json → List Char → Except Fault (Json × List Char)
  | 0, _, _, _ => .error .malformed
  | fuel + 1, depth, done, chars => do
    let (value, rest) ← readValue fuel depth chars
    match skipGap rest with
    | ']' :: rest => return (list (value :: done).reverse, rest)
    | ',' :: rest => readItems fuel depth (value :: done) (skipGap rest)
    | _ => .error .malformed

end

/-- The value of a text that holds nothing else, for a reader that can have `depth` lists and objects
open at once. A byte order mark is no gap. -/
def parse (depth : Nat) (source : String) : Except Fault Json := do
  let chars := source.toList
  let (value, rest) ← readValue (2 * chars.length + 2) depth (skipGap chars)
  if (skipGap rest).isEmpty then return value else .error .malformed

/-! ## JSON in bytes

A body may be in UTF-8, UTF-16 or UTF-32. A byte order mark says which; without
one the zeros among the first four bytes do, since a JSON text begins with an
ASCII character (RFC 4627, section 3). -/

inductive ByteOrder where
  | big
  | little
  deriving DecidableEq, Repr

inductive Encoding where
  | utf8
  | utf16 (order : ByteOrder)
  | utf32 (order : ByteOrder)
  deriving DecidableEq, Repr

/-- The encoding of a body, and the body without its byte order mark. -/
def detectEncoding : Bytes → Encoding × Bytes
  | 0x00 :: 0x00 :: 0xFE :: 0xFF :: rest => (.utf32 .big, rest)
  | 0xFF :: 0xFE :: 0x00 :: 0x00 :: rest => (.utf32 .little, rest)
  | 0xFE :: 0xFF :: rest => (.utf16 .big, rest)
  | 0xFF :: 0xFE :: rest => (.utf16 .little, rest)
  | 0xEF :: 0xBB :: 0xBF :: rest => (.utf8, rest)
  | [a, b] => (if a = 0 then .utf16 .big else if b = 0 then .utf16 .little else .utf8, [a, b])
  | a :: b :: c :: d :: rest =>
    let encoding :=
      if a = 0 then if b = 0 then .utf32 .big else .utf16 .big
      else if b = 0 then if c = 0 ∧ d = 0 then .utf32 .little else .utf16 .little
      else .utf8
    (encoding, a :: b :: c :: d :: rest)
  | bytes => (.utf8, bytes)

/-- The 16-bit units of a byte string of even length. -/
def units16? (order : ByteOrder) : Bytes → Option (List Nat)
  | [] => some []
  | [_] => none
  | a :: b :: rest =>
    let n := if order = .big then 256 * a.toNat + b.toNat else a.toNat + 256 * b.toNat
    (units16? order rest).map (n :: ·)

/-- The 32-bit units of a byte string of a length that four divides. -/
def units32? (order : ByteOrder) : Bytes → Option (List Nat)
  | a :: b :: c :: d :: rest =>
    let n := if order = .big then Bytes.toNatBE [a, b, c, d] else Bytes.toNatLE [a, b, c, d]
    if n < 0x110000 then (units32? order rest).map (n :: ·) else none
  | [] => some []
  | _ => none

/-- UTF-8 with U+FFFD in the place of each surrogate, which has a form of three bytes of its own. -/
def withoutSurrogates : Bytes → Bytes
  | [] => []
  | [a] => [a]
  | [a, b] => [a, b]
  | a :: b :: c :: rest =>
    if a = 0xED ∧ 0xA0 ≤ b ∧ b ≤ 0xBF ∧ 0x80 ≤ c ∧ c ≤ 0xBF then
      0xEF :: 0xBF :: 0xBD :: withoutSurrogates rest
    else a :: withoutSurrogates (b :: c :: rest)

def bodyText? (body : Bytes) : Option String :=
  match detectEncoding body with
  | (.utf8, bytes) => Text.Utf8.decode? (withoutSurrogates bytes)
  | (.utf16 order, bytes) => (units16? order bytes).map fun us => String.ofList (joinSurrogates us)
  | (.utf32 order, bytes) => (units32? order bytes).map fun us => String.ofList (joinSurrogates us)

def parseBody (depth : Nat) (body : Bytes) : Except Fault Json :=
  match bodyText? body with
  | some source => parse depth source
  | none => .error .malformed

end StorageAgent.Json
