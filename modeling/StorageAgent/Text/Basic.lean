/-!
# Texts

Blanks, digits, classes of characters and letter case, as far as the client reads
them. The sets of characters are those of Unicode 14.
-/
namespace StorageAgent.Text

/-! ## Blanks

`isBlank` is the Unicode property White_Space; `isSpacing` adds the four information
separators U+001C to U+001F. Numbers are read between blanks, and configured names are
trimmed of spacing. -/

def isBlank (c : Char) : Bool :=
  let n := c.toNat
  decide ((9 ≤ n ∧ n ≤ 13) ∨ n = 0x20 ∨ n = 0x85 ∨ n = 0xA0 ∨ n = 0x1680 ∨
    (0x2000 ≤ n ∧ n ≤ 0x200A) ∨ n = 0x2028 ∨ n = 0x2029 ∨ n = 0x202F ∨ n = 0x205F ∨ n = 0x3000)

/-- A blank, or one of the information separators. -/
def isSpacing (c : Char) : Bool :=
  isBlank c || decide (0x1C ≤ c.toNat ∧ c.toNat ≤ 0x1F)

/-- `chars` without what `drop` accepts at either end. -/
def trimBy (drop : Char → Bool) (chars : List Char) : List Char :=
  ((chars.dropWhile drop).reverse.dropWhile drop).reverse

def trimSpacing (text : String) : String := String.ofList (trimBy isSpacing text.toList)

/-! ## Parts -/

/-- The parts of `chars` between the characters that are separators. -/
def splitBy (isSeparator : Char → Bool) : List Char → List (List Char)
  | [] => [[]]
  | c :: rest =>
    match splitBy isSeparator rest with
    | [] => [[c]]
    | part :: parts => if isSeparator c then [] :: part :: parts else (c :: part) :: parts

/-! ## Digits

A script has its ten decimal digits (general category Nd) in a row, so its zero says where
they are. -/

/-- The zeros of all scripts. -/
def zeros : List Nat := [
  0x30, 0x660, 0x6F0, 0x7C0, 0x966, 0x9E6, 0xA66, 0xAE6, 0xB66, 0xBE6, 0xC66, 0xCE6, 0xD66, 0xDE6,
  0xE50, 0xED0, 0xF20, 0x1040, 0x1090, 0x17E0, 0x1810, 0x1946, 0x19D0, 0x1A80, 0x1A90, 0x1B50,
  0x1BB0, 0x1C40, 0x1C50, 0xA620, 0xA8D0, 0xA900, 0xA9D0, 0xA9F0, 0xAA50, 0xABF0, 0xFF10, 0x104A0,
  0x10D30, 0x11066, 0x110F0, 0x11136, 0x111D0, 0x112F0, 0x11450, 0x114D0, 0x11650, 0x116C0,
  0x11730, 0x118E0, 0x11950, 0x11C50, 0x11D50, 0x11DA0, 0x16A60, 0x16AC0, 0x16B50, 0x1D7CE,
  0x1D7D8, 0x1D7E2, 0x1D7EC, 0x1D7F6, 0x1E140, 0x1E2F0, 0x1E950, 0x1FBF0
]

/-- The value of a decimal digit of any script. -/
def digitValue? (c : Char) : Option Nat :=
  (zeros.find? fun first => decide (first ≤ c.toNat ∧ c.toNat < first + 10)).map (c.toNat - ·)

/-! ## Runs of characters

A class of characters as a list of runs: how many characters are left out before a run, and
how many it has. -/

def inRuns : List (Nat × Nat) → Nat → Bool
  | [], _ => false
  | (gap, size) :: rest, n =>
    if n < gap then false else if n < gap + size then true else inRuns rest (n - (gap + size))

/-- The value of the run that a character is in. -/
def runValue? : List (Nat × Nat × Nat) → Nat → Option Nat
  | [], _ => none
  | (gap, size, value) :: rest, n =>
    if n < gap then none
    else if n < gap + size then some value
    else runValue? rest (n - (gap + size))

/-! ## Letter case

Names that the program compares are ASCII, so of the case mappings of Unicode only those
matter whose result is ASCII. Every other character is left alone: neither it nor its mapped
form could be part of such a name. -/

/-- The lower-case form of a character, if that form is ASCII. U+212A is the Kelvin sign. -/
def lowerChar (c : Char) : Char :=
  if c.toNat = 0x212A then 'k' else c.toLower

/-- The upper-case form of a character, if that form is ASCII: dotless i, long s, sharp s and the
Latin ligatures have one beside the letters a to z. -/
def upperChar (c : Char) : List Char :=
  match c.toNat with
  | 0x00DF => ['S', 'S']
  | 0x0131 => ['I']
  | 0x017F => ['S']
  | 0xFB00 => ['F', 'F']
  | 0xFB01 => ['F', 'I']
  | 0xFB02 => ['F', 'L']
  | 0xFB03 => ['F', 'F', 'I']
  | 0xFB04 => ['F', 'F', 'L']
  | 0xFB05 => ['S', 'T']
  | 0xFB06 => ['S', 'T']
  | _ => [c.toUpper]

def lower (text : String) : String := String.ofList (text.toList.map lowerChar)

def upper (text : String) : String := String.ofList (text.toList.flatMap upperChar)

/-- Whether `needle` stands somewhere in `hay`. -/
def occursIn (needle : List Char) : List Char → Bool
  | [] => needle.isEmpty
  | c :: rest => needle.isPrefixOf (c :: rest) || occursIn needle rest

def contains (text part : String) : Bool := occursIn part.toList text.toList

end StorageAgent.Text

namespace StorageAgent.Text.Numeral

/-! ## Numerals

Integers as users write them: decimal digits of any script, between blanks, after an
optional sign, with single underscores between digits. -/

/-- The most digits that a numeral may have. -/
def digitLimit : Nat := 4300

/-- The value of digits after those that make `value`; `count` of them have been read. -/
def digitsFrom : Nat → Nat → List Char → Option Nat
  | value, count, [] => if count ≤ digitLimit then some value else none
  | value, count, '_' :: c :: rest =>
    match digitValue? c with
    | some d => digitsFrom (10 * value + d) (count + 1) rest
    | none => none
  | value, count, c :: rest =>
    match digitValue? c with
    | some d => digitsFrom (10 * value + d) (count + 1) rest
    | none => none

def natural? : List Char → Option Nat
  | [] => none
  | c :: rest =>
    match digitValue? c with
    | some d => digitsFrom d 1 rest
    | none => none

def integer? (text : String) : Option Int :=
  match trimBy isBlank text.toList with
  | '-' :: rest => (natural? rest).map fun n => -(n : Int)
  | '+' :: rest => (natural? rest).map fun n => (n : Int)
  | chars => (natural? chars).map fun n => (n : Int)

end StorageAgent.Text.Numeral
