import StorageAgent.Json.Basic

/-!
# Writing JSON

Two layouts are in use: requests are written without blanks and with their
characters as they are, log lines with a blank after each comma and colon and
with ASCII characters only.
-/
namespace StorageAgent.Json

/-- How a value is laid out. -/
structure Layout where
  comma : String
  colon : String
  asciiOnly : Bool

/-- Requests: no blanks, all characters as they are. -/
def Layout.compact : Layout := ⟨",", ":", false⟩

/-- Log lines: blanks after commas and colons, ASCII only. -/
def Layout.line : Layout := ⟨", ", ": ", true⟩

/-- The escape of a 16-bit unit. -/
def unitEscape (n : Nat) : List Char := '\\' :: 'u' :: Text.hexDigits 2 n

def writeChar (layout : Layout) (c : Char) : List Char :=
  let n := c.toNat
  if c = '"' ∨ c = '\\' then ['\\', c]
  else if c = '\n' then ['\\', 'n']
  else if c = '\r' then ['\\', 'r']
  else if c = '\t' then ['\\', 't']
  else if n = 8 then ['\\', 'b']
  else if n = 12 then ['\\', 'f']
  else if n < 0x20 then unitEscape n
  else if n < 0x7F ∨ !layout.asciiOnly then [c]
  else if n < 0x10000 then unitEscape n
  else unitEscape (0xD800 + (n - 0x10000) / 0x400) ++ unitEscape (0xDC00 + (n - 0x10000) % 0x400)

def writeText (layout : Layout) (s : String) : String :=
  String.ofList ('"' :: (s.toList.flatMap (writeChar layout) ++ ['"']))

/-- A number with a fraction or exponent. -/
def writeFloat (x : Float) : String :=
  match Decimal.parts x with
  | .nan => "NaN"
  | .infinite negative => if negative then "-Infinity" else "Infinity"
  | .finite .. => Decimal.text x

mutual

def write (layout : Layout) : Json → String
  | null => "null"
  | bool b => if b then "true" else "false"
  | int n => toString n
  | float x => writeFloat x
  | text s => writeText layout s
  | list items => "[" ++ layout.comma.intercalate (writeItems layout items) ++ "]"
  | object members => "\x7b" ++ layout.comma.intercalate (writeMembers layout members) ++ "\x7d"

def writeItems (layout : Layout) : List Json → List String
  | [] => []
  | j :: rest => write layout j :: writeItems layout rest

def writeMembers (layout : Layout) : List (String × Json) → List String
  | [] => []
  | (name, j) :: rest =>
    (writeText layout name ++ layout.colon ++ write layout j) :: writeMembers layout rest

end

end StorageAgent.Json
