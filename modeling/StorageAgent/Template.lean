import StorageAgent.Decimal
import StorageAgent.Json.Basic

/-!
# Templates

A template is a text with directives. A directive begins with `%`, may name a
value in parentheses, give flags, a width and a precision, and ends with a
letter that says how a value is written; `%%` stands for `%`. Values are taken
in their order, or by name.
-/
namespace StorageAgent.Template

/-- What fills a template. -/
inductive Filling where
  /-- One value for each directive. -/
  | ordered (values : List Json)
  /-- Values by name. A directive without a name takes all of them at once. -/
  | named (members : List (String × Json))

inductive Fault where
  /-- A value is of the wrong kind, or their number is wrong. -/
  | wrongKind
  /-- A directive is malformed, or a value has no such form. -/
  | malformed
  /-- No value has the name. -/
  | noKey
  /-- A number is too large. -/
  | tooLarge
  /-- The text would not fit into memory. -/
  | noMemory
  deriving DecidableEq, Repr

/-- How a value is written. -/
structure Format where
  left : Bool := false
  zeros : Bool := false
  plus : Bool := false
  blank : Bool := false
  alternate : Bool := false
  width : Nat := 0
  precision : Option Nat := none

/-! ## Reading a directive -/

/-- The value that comes next, and those after it. -/
def nextValue : List Json → Except Fault (Json × List Json)
  | [] => .error .wrongKind
  | v :: rest => .ok (v, rest)

/-- The name up to the parenthesis that closes `depth` open ones, and what follows. -/
def readKey : Nat → List Char → Option (List Char × List Char)
  | _, [] => none
  | depth, c :: rest =>
    if c = ')' then
      match depth with
      | 0 => some ([], rest)
      | depth + 1 => (readKey depth rest).map fun (key, r) => (c :: key, r)
    else
      (readKey (if c = '(' then depth + 1 else depth) rest).map fun (key, r) => (c :: key, r)

def readFlags : Format → List Char → Format × List Char
  | f, '-' :: rest => readFlags { f with left := true } rest
  | f, '+' :: rest => readFlags { f with plus := true } rest
  | f, ' ' :: rest => readFlags { f with blank := true } rest
  | f, '#' :: rest => readFlags { f with alternate := true } rest
  | f, '0' :: rest => readFlags { f with zeros := true } rest
  | f, rest => (f, rest)

def readNumber (chars : List Char) : Nat × List Char :=
  ((chars.takeWhile Char.isDigit).foldl (fun n c => 10 * n + (c.toNat - '0'.toNat)) 0,
    chars.dropWhile Char.isDigit)

def widthLimit : Nat := 9223372036854775807

def precisionLimit : Nat := 2147483647

/-- The characters that fit into memory. -/
def memoryLimit : Nat := 4294967296

/-- A width or precision of at most `limit`: a number, or `*` for the value that comes next. -/
def readSize (limit : Nat) (chars : List Char) (values : List Json) :
    Except Fault (Int × List Char × List Json) :=
  match chars with
  | '*' :: rest =>
    match values with
    | .int n :: values =>
      if n ≤ limit ∧ -(limit : Int) - 1 ≤ n then .ok (n, rest, values) else .error .tooLarge
    | .bool b :: values => .ok (if b then 1 else 0, rest, values)
    | _ => .error .wrongKind
  | _ =>
    let (n, rest) := readNumber chars
    if n ≤ limit then .ok (n, rest, values) else .error .malformed

/-- A directive: its format, its letter, what follows it, and the values that are left. -/
def readDirective (filling : Filling) (chars : List Char) (values : List Json) :
    Except Fault (Format × Char × List Char × List Json) := do
  let (chars, values) ←
    match chars with
    | '(' :: rest =>
      match filling with
      | .ordered _ => .error .wrongKind
      | .named members =>
        match readKey 0 rest with
        | none => .error .malformed
        | some (key, rest) =>
          match Json.member? members (String.ofList key) with
          | none => .error .noKey
          | some value => .ok (rest, [value])
    | _ => .ok (chars, values)
  let (format, chars) := readFlags {} chars
  let (width, chars, values) ← readSize widthLimit chars values
  let format :=
    { format with left := format.left || decide (width < 0), width := width.natAbs }
  let (format, chars, values) ←
    match chars with
    | '.' :: rest => do
      let (precision, rest, values) ← readSize precisionLimit rest values
      Except.ok ({ format with precision := some precision.toNat }, rest, values)
    | _ => .ok (format, chars, values)
  let chars :=
    match chars with
    | 'h' :: rest => rest
    | 'l' :: rest => rest
    | 'L' :: rest => rest
    | _ => chars
  match chars with
  | [] => .error .malformed
  | letter :: rest => return (format, letter, rest, values)

/-! ## Writing a value -/

def padText (f : Format) (text : List Char) : List Char :=
  let fill := List.replicate (f.width - text.length) ' '
  if f.left then text ++ fill else fill ++ text

/-- A number with its sign and what marks its base, filled with zeros or blanks. -/
def padNumber (f : Format) (negative : Bool) (mark digits : List Char) : List Char :=
  let sign := if negative then ['-'] else if f.plus then ['+'] else if f.blank then [' '] else []
  let missing := f.width - (sign.length + mark.length + digits.length)
  if f.zeros && !f.left then sign ++ mark ++ List.replicate missing '0' ++ digits
  else padText f (sign ++ mark ++ digits)

/-- The digits of a natural number in a base, at least as many as the precision says. -/
def digitsIn (f : Format) (base n : Nat) : List Char :=
  let digits := Nat.toDigits base n
  List.replicate (f.precision.getD 1 - digits.length) '0' ++ digits

def writeText (f : Format) (text : String) : List Char :=
  let chars := text.toList
  padText f (match f.precision with | some n => chars.take n | none => chars)

def integerOf : Json → Except Fault Int
  | .int n => .ok n
  | .bool b => .ok (if b then 1 else 0)
  | _ => .error .wrongKind

def wholeOf : Json → Except Fault Int
  | .float x =>
    match Decimal.truncate? x with
    | some n => .ok n
    | none => .error (if x.isNaN then .malformed else .tooLarge)
  | j => integerOf j

def doubleOf : Json → Except Fault Float
  | .float x => .ok x
  | j => do
    let n ← integerOf j
    let x := Decimal.nearest (decide (n < 0)) n.natAbs 1
    if Decimal.isFinite x then return x else throw .tooLarge

def writeInteger (f : Format) (base : Nat) (mark : List Char) (n : Int) : List Char :=
  padNumber f (decide (n < 0)) (if f.alternate then mark else []) (digitsIn f base n.natAbs)

def writeDouble (f : Format) (form : Bool → Nat → Float → String) (j : Json) :
    Except Fault (List Char) := do
  let x ← doubleOf j
  match (form f.alternate (f.precision.getD 6) x).toList with
  | '-' :: body => return padNumber f true [] body
  | body => return padNumber f false [] body

/-- A quoted form with ASCII characters only. -/
def asciiForm (text : String) : String :=
  String.ofList (text.toList.flatMap fun c =>
    if c.toNat < 0x80 then [c] else Text.escape '"' (fun _ => false) c)

def characterOf : Json → Except Fault String
  | .text s => if s.length = 1 then .ok s else .error .wrongKind
  | j => do
    let n ← integerOf j
    if 0 ≤ n ∧ n < 0x110000 then return String.singleton (Char.ofNat n.toNat) else throw .tooLarge

/-- A value in the form of a letter. -/
def writeValue (f : Format) (letter : Char) (j : Json) : Except Fault (List Char) :=
  match letter with
  | 's' => .ok (writeText f j.display)
  | 'r' => .ok (writeText f j.literal)
  | 'a' => .ok (writeText f (asciiForm j.literal))
  | 'c' => (characterOf j).map (fun s => padText f s.toList)
  | 'd' => (wholeOf j).map (writeInteger f 10 [])
  | 'i' => (wholeOf j).map (writeInteger f 10 [])
  | 'u' => (wholeOf j).map (writeInteger f 10 [])
  | 'o' => (integerOf j).map (writeInteger f 8 ['0', 'o'])
  | 'x' => (integerOf j).map (writeInteger f 16 ['0', 'x'])
  | 'X' => (integerOf j).map (fun n => (writeInteger f 16 ['0', 'x'] n).map Char.toUpper)
  | 'f' => writeDouble f Decimal.positional j
  | 'F' => (writeDouble f Decimal.positional j).map (·.map Char.toUpper)
  | 'e' => writeDouble f Decimal.scientific j
  | 'E' => (writeDouble f Decimal.scientific j).map (·.map Char.toUpper)
  | 'g' => writeDouble f Decimal.general j
  | 'G' => (writeDouble f Decimal.general j).map (·.map Char.toUpper)
  | _ => .error .malformed

/-! ## Filling -/

/-- The filled text. Each directive is at least one character long, so `fuel` may be the number of
characters. -/
def fillFrom (filling : Filling) : Nat → List Char → List Json → Except Fault (List Char)
  | _, [], values =>
    match filling, values with
    | .ordered _, _ :: _ => .error .wrongKind
    | _, _ => .ok []
  | 0, _ :: _, _ => .error .malformed
  | fuel + 1, '%' :: '%' :: rest, values => do
    let more ← fillFrom filling fuel rest values
    return '%' :: more
  | fuel + 1, '%' :: rest, values => do
    let (format, letter, rest, values) ← readDirective filling rest values
    let (value, values) ← nextValue values
    let tooWide := decide (memoryLimit < format.width)
    let shown ← writeValue (if tooWide then { format with width := 0 } else format) letter value
    if tooWide then throw .noMemory
    let more ← fillFrom filling fuel rest values
    return shown ++ more
  | fuel + 1, c :: rest, values => do
    let more ← fillFrom filling fuel rest values
    return c :: more

def fill (template : String) (filling : Filling) : Except Fault String :=
  let values :=
    match filling with
    | .ordered values => values
    | .named members => [.object members]
  let chars := template.toList
  (fillFrom filling chars.length chars values).map String.ofList

end StorageAgent.Template
