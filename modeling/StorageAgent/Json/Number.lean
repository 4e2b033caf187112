import StorageAgent.Json.Basic
import StorageAgent.Text.Basic

/-!
# Numbers in JSON values

Answers that should hold a number are taken as they come: a text may spell an
integer, a number with a fraction is cut off, and a truth value counts as 0 or 1.
Numbers are compared by their exact values.
-/
namespace StorageAgent.Json

/-- Why a value stands for no integer. -/
inductive NumberFault where
  /-- It is neither a number nor a text. -/
  | wrongKind
  /-- It is a text that spells no integer, or no number at all. -/
  | noInteger
  /-- It is infinite. -/
  | infinite
  deriving DecidableEq, Repr

def toInteger : Json → Except NumberFault Int
  | bool b => .ok (if b then 1 else 0)
  | int n => .ok n
  | float x =>
    match Decimal.parts x with
    | .nan => .error .noInteger
    | .infinite _ => .error .infinite
    | .finite .. => .ok ((Decimal.truncate? x).getD 0)
  | text s =>
    match Text.Numeral.integer? s with
    | some n => .ok n
    | none => .error .noInteger
  | _ => .error .wrongKind

/-- A number of a JSON value, for comparison: not comparable at all, beyond all others, or the
quotient of an integer and a positive integer. -/
inductive Magnitude where
  | nan
  | infinite (negative : Bool)
  | exact (num : Int) (den : Nat)

def Magnitude.ofFloat (x : Float) : Magnitude :=
  match Decimal.parts x with
  | .nan => .nan
  | .infinite negative => .infinite negative
  | .finite negative m e =>
    let num : Int := m * Decimal.twoPow e.toNat
    .exact (if negative then -num else num) (Decimal.twoPow (-e).toNat)

def Magnitude.exceeds : Magnitude → Magnitude → Bool
  | .exact a b, .exact c d => decide (c * b < a * d)
  | .infinite false, .infinite true => true
  | .infinite false, .exact .. => true
  | .exact .., .infinite true => true
  | _, _ => false

def magnitude? : Json → Option Magnitude
  | bool b => some (.exact (if b then 1 else 0) 1)
  | int n => some (.exact n 1)
  | float x => some (.ofFloat x)
  | _ => none

def Magnitude.equals : Magnitude → Magnitude → Bool
  | .exact a b, .exact c d => a * d == c * b
  | .infinite a, .infinite b => a == b
  | _, _ => false

/-- Whether two values are equal numbers. -/
def numbersEqual (a b : Json) : Bool :=
  match magnitude? a, magnitude? b with
  | some x, some y => x.equals y
  | _, _ => false

mutual

/-- Whether two values are equal: numbers and truth values by their magnitudes, objects whatever the
order of their members. -/
def equals : Json → Json → Bool
  | null, b => b.isNull
  | text s, b =>
    match b with
    | text t => s == t
    | _ => false
  | list xs, b =>
    match b with
    | list ys => allEqual xs ys
    | _ => false
  | object ms, b =>
    match b with
    | object ns => ms.length == ns.length && membersEqual ms ns
    | _ => false
  | bool a, b => numbersEqual (.bool a) b
  | int a, b => numbersEqual (.int a) b
  | float a, b => numbersEqual (.float a) b

def allEqual : List Json → List Json → Bool
  | [], ys => ys.isEmpty
  | x :: xs, ys =>
    match ys with
    | y :: ys => equals x y && allEqual xs ys
    | [] => false

def membersEqual : List (String × Json) → List (String × Json) → Bool
  | [], _ => true
  | (name, x) :: rest, ns =>
    (match member? ns name with
      | some y => equals x y
      | none => false) && membersEqual rest ns

end

mutual

/-- Whether the first value is the greater: of two numbers, of two texts in the order of their
characters, or of two lists at the first place where they differ. Other values have no order. -/
def exceeds? : Json → Json → Option Bool
  | text s, b =>
    match b with
    | text t => some (decide (t < s))
    | _ => none
  | list xs, b =>
    match b with
    | list ys => listExceeds? xs ys
    | _ => none
  | a, b =>
    match magnitude? a, magnitude? b with
    | some x, some y => some (x.exceeds y)
    | _, _ => none

/-- Whether the first list is the greater; of a list and its beginning, the list. -/
def listExceeds? : List Json → List Json → Option Bool
  | [], _ => some false
  | _ :: _, [] => some true
  | x :: xs, y :: ys => if equals x y then listExceeds? xs ys else exceeds? x y

end

end StorageAgent.Json
