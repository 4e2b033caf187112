import StorageAgent.Decimal
import StorageAgent.Text.Printable

/-!
# JSON values

A value keeps the difference between an integer and a number with a fraction or
exponent, and an object keeps the order of its members.

`Json.display` is how messages show a value: a text bare at the top and quoted
inside, `None` for null, `True` and `False`, members as `'name': value`.
-/
namespace StorageAgent

inductive Json where
  | null
  | bool (b : Bool)
  | int (n : Int)
  | float (x : Float)
  | text (s : String)
  | list (items : List Json)
  | object (members : List (String × Json))
  deriving Inhabited

namespace Json

def member? (members : List (String × Json)) (name : String) : Option Json :=
  (members.find? fun m => m.1 == name).map (·.2)

/-- `members` with `name` set: in its place if it is there, else at the end. -/
def setMember (name : String) (value : Json) : List (String × Json) → List (String × Json)
  | [] => [(name, value)]
  | m :: rest => if m.1 == name then (name, value) :: rest else m :: setMember name value rest

/-- Whether a value counts as present: not null, false, zero or empty. -/
def isTruthy : Json → Bool
  | null => false
  | bool b => b
  | int n => n != 0
  | float x => !(x == 0)
  | text s => !s.isEmpty
  | list items => !items.isEmpty
  | object members => !members.isEmpty

def isNull : Json → Bool
  | null => true
  | _ => false

mutual

/-- A value as it is shown inside another. -/
def literal : Json → String
  | null => "None"
  | bool b => if b then "True" else "False"
  | int n => toString n
  | float x => Decimal.text x
  | text s => Text.quote s
  | list items => "[" ++ ", ".intercalate (literals items) ++ "]"
  | object members => "\x7b" ++ ", ".intercalate (memberLiterals members) ++ "\x7d"

def literals : List Json → List String
  | [] => []
  | j :: rest => literal j :: literals rest

def memberLiterals : List (String × Json) → List String
  | [] => []
  | (name, j) :: rest => (Text.quote name ++ ": " ++ literal j) :: memberLiterals rest

end

/-- A value as a message shows it. -/
def display : Json → String
  | text s => s
  | j => literal j

mutual

/-- Whether every number in a value is finite, so that the value can be written as JSON. -/
def isWritable : Json → Bool
  | float x => Decimal.isFinite x
  | list items => allWritable items
  | object members => membersWritable members
  | _ => true

def allWritable : List Json → Bool
  | [] => true
  | j :: rest => isWritable j && allWritable rest

def membersWritable : List (String × Json) → Bool
  | [] => true
  | (_, j) :: rest => isWritable j && membersWritable rest

end

end Json
end StorageAgent
