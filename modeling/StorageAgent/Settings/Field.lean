import StorageAgent.Path
import StorageAgent.Payload.Codec
import StorageAgent.Settings.Number
import StorageAgent.Submission
import StorageAgent.Text.Basic

/-!
# Fields of the settings

How the value of one field is read: a text from the environment, or a value of
any kind from the program. A fault has a kind and words.
-/
namespace StorageAgent.Settings

/-- Why a value is refused. -/
inductive FieldFault where
  | noInteger
  | integerUnreadable
  | integerTooLong
  | fractional
  | notFinite
  | noNumber
  | numberUnreadable
  | noText
  | textUnreadable
  | noPath
  | notAbove (bound : Nat)
  | below (bound : Nat)
  | above (bound : Nat)
  | refused (message : String)
  deriving DecidableEq, Repr

namespace FieldFault

def kind : FieldFault → String
  | noInteger => "int_type"
  | integerUnreadable => "int_parsing"
  | integerTooLong => "int_parsing_size"
  | fractional => "int_from_float"
  | notFinite => "finite_number"
  | noNumber => "float_type"
  | numberUnreadable => "float_parsing"
  | noText => "string_type"
  | textUnreadable => "string_unicode"
  | noPath => "path_type"
  | notAbove _ => "greater_than"
  | below _ => "greater_than_equal"
  | above _ => "less_than_equal"
  | refused _ => "value_error"

def message : FieldFault → String
  | noInteger => "Input should be a valid integer"
  | integerUnreadable => "Input should be a valid integer, unable to parse string as an integer"
  | integerTooLong => "Unable to parse input string as an integer, exceeded maximum size"
  | fractional => "Input should be a valid integer, got a number with a fractional part"
  | notFinite => "Input should be a finite number"
  | noNumber => "Input should be a valid number"
  | numberUnreadable => "Input should be a valid number, unable to parse string as a number"
  | noText => "Input should be a valid string"
  | textUnreadable => "Input should be a valid string, unable to parse raw data as a unicode string"
  | noPath => "Input is not a valid path for <class 'pathlib.Path'>"
  | notAbove bound => s!"Input should be greater than {bound}"
  | below bound => s!"Input should be greater than or equal to {bound}"
  | above bound => s!"Input should be less than or equal to {bound}"
  | refused message => "Value error, " ++ message

end FieldFault

/-- A text. Bytes are taken as UTF-8. -/
def readText : Argument → Except FieldFault String
  | .text s => .ok s
  | .bytes b =>
    match Text.Utf8.decode? b with
    | some s => .ok s
    | none => .error .textUnreadable
  | .buffer b =>
    match Text.Utf8.decode? b with
    | some s => .ok s
    | none => .error .textUnreadable
  | _ => .error .noText

def integerOfText (s : String) : Except FieldFault Int :=
  (readInteger s).mapError fun
    | .malformed => .integerUnreadable
    | .tooLong => .integerTooLong

/-- The integers that doubles are taken for lie strictly between minus this bound and this bound. -/
def doubleBound : Nat := 9223372036854775808

/-- An integer. A double has to equal one, and a truth value counts as 0 or 1. -/
def integerOf : Argument → Except FieldFault Int
  | .bool b => .ok (if b then 1 else 0)
  | .int n => .ok n
  | .float x =>
    if !Decimal.isFinite x then .error .notFinite
    else
      match Decimal.integer? x with
      | some n => if n.natAbs < doubleBound then .ok n else .error .integerTooLong
      | none => .error .fractional
  | .text s => integerOfText s
  | .bytes b =>
    match Text.Utf8.decode? b with
    | some s => integerOfText s
    | none => .error .integerUnreadable
  | _ => .error .noInteger

def doubleOfText (s : String) : Except FieldFault Float :=
  match readDouble s with
  | some x => .ok x
  | none => .error .numberUnreadable

/-- A double. An integer has to be in its range, and a truth value counts as 0 or 1. -/
def doubleOf : Argument → Except FieldFault Float
  | .bool b => .ok (if b then 1.0 else 0.0)
  | .int n =>
    let x := Decimal.nearest (decide (n < 0)) n.natAbs 1
    if Decimal.isFinite x then .ok x else .error .noNumber
  | .float x => .ok x
  | .text s => doubleOfText s
  | .bytes b =>
    match Text.Utf8.decode? b with
    | some s => doubleOfText s
    | none => .error .numberUnreadable
  | _ => .error .noNumber

/-- An integer from `least` to `most`, if that is given. -/
def integerWithin (least : Nat) (most : Option Nat) (a : Argument) : Except FieldFault Int := do
  let n ← integerOf a
  if n < least then throw (.below least)
  match most with
  | some m => if (m : Int) < n then throw (.above m) else return n
  | none => return n

def positive (a : Argument) : Except FieldFault Float := do
  let x ← doubleOf a
  if x > 0 then return x else throw (.notAbove 0)

def nonNegative (a : Argument) : Except FieldFault Float := do
  let x ← doubleOf a
  if x ≥ 0 then return x else throw (.below 0)

/-- A commitment level, in any case and between spacing. -/
def commitmentOf (a : Argument) : Except FieldFault Commitment := do
  let s ← readText a
  match Commitment.ofName? (Text.lower (Text.trimSpacing s)) with
  | some c => return c
  | none =>
    throw (.refused ("commitment must be one of " ++ ", ".intercalate (Commitment.all.map (·.name))))

/-- The address of a program, between spacing. -/
def programOf (a : Argument) : Except FieldFault Address := do
  let s ← readText a
  match Address.parse (Text.trimSpacing s) with
  | .ok address => return address
  | .error fault => throw (.refused ("program_id is not a valid pubkey: " ++ fault.message))

/-- A path. Bytes are none. -/
def pathOf : Argument → Except FieldFault Path
  | .text s => .ok (Path.parse s)
  | _ => .error .noPath

end StorageAgent.Settings
