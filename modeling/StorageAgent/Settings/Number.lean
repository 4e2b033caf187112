import StorageAgent.Decimal
import StorageAgent.Text.Basic

/-!
# Numbers in settings

Numbers as they are written in an environment: ASCII digits between blanks.

An integer may have a sign, single underscores between its digits, zeros and
underscores in front, and a fraction of nothing but zeros. A double has an
optional fraction and exponent, or is a word for infinity or for no number.
Without blanks around it, it may have underscores, none at the ends and no two in
a row.
-/
namespace StorageAgent.Settings

inductive IntegerFault where
  | malformed
  | tooLong
  deriving DecidableEq, Repr

/-- The most characters of an integer. -/
def integerLimit : Nat := 4300

def isDigit (c : Char) : Bool := decide (48 ≤ c.toNat ∧ c.toNat ≤ 57)

def digitsValue (digits : List Char) : Nat := digits.foldl (fun n c => 10 * n + (c.toNat - 48)) 0

/-- Whether a text may be read without its underscores: none at the ends, no two in a row. -/
def hasLooseUnderscores : List Char → Bool
  | [] => false
  | ['_'] => true
  | '_' :: '_' :: _ => true
  | _ :: rest => hasLooseUnderscores rest

/-- The characters without underscores, if all of these stand between two others. -/
def dropUnderscores? (chars : List Char) : Option (List Char) :=
  if chars.head? == some '_' || hasLooseUnderscores chars then none
  else some (chars.filter (· != '_'))

/-- The characters before a point that only zeros follow, or all of them. -/
def dropZeroFraction (chars : List Char) : List Char :=
  if (chars.dropWhile (· != '.')).drop 1 |>.all (· == '0') then chars.takeWhile (· != '.') else chars

/-- The characters after zeros at the start and the underscores among them, where `last` is the last
of these; it stays if no digit follows. -/
def dropZerosAfter (last : Char) : List Char → List Char
  | [] => [last]
  | c :: rest =>
    if c = '0' ∨ c = '_' then dropZerosAfter c rest
    else if isDigit c then c :: rest
    else last :: c :: rest

/-- The characters after zeros at the start. -/
def dropZeros : List Char → List Char
  | '0' :: rest => dropZerosAfter '0' rest
  | chars => chars

/-- The value of an integer without its sign, if it has at most `room` digits. -/
def magnitude? (room : Nat) (chars : List Char) : Option Nat :=
  match chars with
  | [] => none
  | c :: _ =>
    if isDigit c then
      match dropUnderscores? (dropZeroFraction (dropZeros chars)) with
      | none => none
      | some digits =>
        if digits.isEmpty || !digits.all isDigit || decide (room < digits.length) then none
        else some (digitsValue digits)
    else none

/-- Whether the characters begin with a digit that is not zero and run on for more than `room`. -/
def runsOver (room : Nat) (chars : List Char) : Bool :=
  chars.head? != some '0' && decide (room < (chars.takeWhile isDigit).length)

/-- Whether a text begins with more digits than an integer may have, a minus sign counting as one. -/
def isTooLong : List Char → Bool
  | '-' :: rest => runsOver (integerLimit - 1) rest
  | chars => runsOver integerLimit chars

def signed? : List Char → Option Int
  | '-' :: rest => (magnitude? (integerLimit - 1) rest).map fun n => -(n : Int)
  | '+' :: rest => (magnitude? integerLimit rest).map fun n => (n : Int)
  | chars => (magnitude? integerLimit chars).map fun n => (n : Int)

def readInteger (text : String) : Except IntegerFault Int :=
  let chars := text.toList
  if isTooLong chars then .error .tooLong
  else
    match signed? (Text.trimBy Text.isBlank chars) with
    | some n => .ok n
    | none => .error .malformed

/-- The exponent of a double: nothing, or the letter e, an optional sign and digits. -/
def readExponent : List Char → Option Int
  | [] => some 0
  | e :: rest =>
    if e = 'e' ∨ e = 'E' then
      let (negative, digits) :=
        match rest with
        | '-' :: digits => (true, digits)
        | '+' :: digits => (false, digits)
        | digits => (false, digits)
      if digits.isEmpty || !digits.all isDigit then none
      else
        let n : Int := digitsValue digits
        some (if negative then -n else n)
    else none

/-- The double of a number without its sign. -/
def readMagnitude (negative : Bool) (chars : List Char) : Option Float :=
  let word := String.ofList (chars.map Char.toLower)
  if word == "inf" || word == "infinity" then some (if negative then -1.0 / 0.0 else 1.0 / 0.0)
  else if word == "nan" then some (0.0 / 0.0)
  else
    let whole := chars.takeWhile isDigit
    let rest := chars.drop whole.length
    let (places, rest) :=
      match rest with
      | '.' :: rest => (rest.takeWhile isDigit, rest.dropWhile isDigit)
      | rest => ([], rest)
    if whole.isEmpty && places.isEmpty then none
    else (readExponent rest).map fun e =>
      Decimal.ofDecimal negative (digitsValue (whole ++ places)) (e - places.length)

/-- The double of characters without underscores and blanks. -/
def readPlainDouble : List Char → Option Float
  | '-' :: rest => readMagnitude true rest
  | '+' :: rest => readMagnitude false rest
  | chars => readMagnitude false chars

/-- The double that a text spells: between blanks, or else with underscores. -/
def readDouble (text : String) : Option Float :=
  match readPlainDouble (Text.trimBy Text.isBlank text.toList) with
  | some x => some x
  | none => (dropUnderscores? text.toList).bind readPlainDouble

end StorageAgent.Settings
