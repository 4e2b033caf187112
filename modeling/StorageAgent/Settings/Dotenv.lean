import StorageAgent.Text.Basic

/-!
# Dotenv files

A file of lines `NAME=value`. A name may be quoted and may follow `export`; a
name without an equals sign has no value. A value in quotes may run over several
lines; one without quotes ends where a comment begins after a blank. A line that
does not follow these rules is skipped.

In values `${NAME}` and `${NAME:-default}` stand for a value set before in the
file or else in the environment.
-/
namespace StorageAgent.Dotenv

abbrev Binding := String × Option String

/-- The text with every line end a line feed. -/
def unifyLines : List Char → List Char
  | '\r' :: '\n' :: rest => '\n' :: unifyLines rest
  | '\r' :: rest => '\n' :: unifyLines rest
  | c :: rest => c :: unifyLines rest
  | [] => []

/-- Spacing within a line. -/
def isInlineSpacing (c : Char) : Bool := Text.isSpacing c && c != '\n' && c != '\r'

def skipInline (chars : List Char) : List Char := chars.dropWhile isInlineSpacing

/-- The characters after the word `export` and spacing, if they are there. -/
def skipExport : List Char → List Char
  | 'e' :: 'x' :: 'p' :: 'o' :: 'r' :: 't' :: c :: rest =>
    if isInlineSpacing c then skipInline rest
    else 'e' :: 'x' :: 'p' :: 'o' :: 'r' :: 't' :: c :: rest
  | chars => chars

/-- What stands before the closing quote, and what follows it. A character after a backslash does not
close. -/
def untilQuote (q : Char) : List Char → Option (List Char × List Char)
  | [] => none
  | '\\' :: c :: rest => (untilQuote q rest).map fun (inside, after) => ('\\' :: c :: inside, after)
  | c :: rest =>
    if c = q then some ([], rest)
    else (untilQuote q rest).map fun (inside, after) => (c :: inside, after)

def doubleEscape? : Char → Option Char
  | '\\' => some '\\'
  | '\'' => some '\''
  | '"' => some '"'
  | 'a' => some (Char.ofNat 7)
  | 'b' => some (Char.ofNat 8)
  | 'f' => some (Char.ofNat 12)
  | 'n' => some '\n'
  | 'r' => some '\r'
  | 't' => some '\t'
  | 'v' => some (Char.ofNat 11)
  | _ => none

def singleEscape? : Char → Option Char
  | '\\' => some '\\'
  | '\'' => some '\''
  | _ => none

/-- The text with its escapes replaced. A backslash before anything else stands for itself. -/
def unescape (escape? : Char → Option Char) : List Char → List Char
  | '\\' :: c :: rest =>
    match escape? c with
    | some d => d :: unescape escape? rest
    | none => '\\' :: unescape escape? (c :: rest)
  | c :: rest => c :: unescape escape? rest
  | [] => []

/-- The characters before spacing that a number sign follows. -/
def beforeComment : List Char → List Char
  | [] => []
  | c :: rest =>
    if Text.isSpacing c && ((c :: rest).dropWhile Text.isSpacing).head? == some '#' then []
    else c :: beforeComment rest

/-- A value without quotes: the line without comment and trailing spacing. -/
def unquoted (line : List Char) : List Char :=
  ((beforeComment line).reverse.dropWhile Text.isSpacing).reverse

def restOfLine (chars : List Char) : List Char × List Char :=
  (chars.takeWhile (· != '\n'), (chars.dropWhile (· != '\n')).drop 1)

/-- A value, and what follows it. -/
def value? : List Char → Option (List Char × List Char)
  | '\'' :: rest => (untilQuote '\'' rest).map fun (v, after) => (unescape singleEscape? v, after)
  | '"' :: rest => (untilQuote '"' rest).map fun (v, after) => (unescape doubleEscape? v, after)
  | chars =>
    some (unquoted (chars.takeWhile (· != '\n')), chars.dropWhile (· != '\n'))

/-- A name, and what follows it; no name before a comment. -/
def name? : List Char → Option (Option (List Char) × List Char)
  | '#' :: rest => some (none, '#' :: rest)
  | '\'' :: rest =>
    let name := rest.takeWhile (· != '\'')
    match rest.dropWhile (· != '\'') with
    | _ :: after => if name.isEmpty then none else some (some name, after)
    | [] => none
  | chars =>
    let isName := fun c => !(c == '=' || c == '#' || Text.isSpacing c)
    let name := chars.takeWhile isName
    if name.isEmpty then none else some (some name, chars.dropWhile isName)

/-- What follows an optional comment and the end of the line. -/
def lineEnd? (chars : List Char) : Option (List Char) :=
  let spaced := skipInline chars
  let rest :=
    match spaced with
    | '#' :: _ => spaced.dropWhile (· != '\n')
    | _ => spaced
  match rest with
  | [] => some []
  | '\n' :: rest => some rest
  | _ => none

/-- One step of reading: a binding, if the line has one, and what follows. A line that cannot be read
is left from where reading failed. -/
def step (chars : List Char) : Option Binding × List Char :=
  let chars := chars.dropWhile Text.isSpacing
  if chars.isEmpty then (none, [])
  else
    let start := skipExport chars
    match name? start with
    | none => (none, (restOfLine start).2)
    | some (name, rest) =>
      let rest := skipInline rest
      let read :=
        match rest with
        | '=' :: after => (value? (skipInline after)).map fun (v, after) => (some (String.ofList v), after)
        | _ => some (none, rest)
      match read with
      | none => (none, (restOfLine rest).2)
      | some (v, after) =>
        match lineEnd? after with
        | none => (none, (restOfLine after).2)
        | some next => (name.map fun n => (String.ofList n, v), next)

/-- The bindings of a file; `fuel` bounds the number of its lines. -/
def bindingsFrom : Nat → List Char → List Binding
  | 0, _ => []
  | fuel + 1, chars =>
    if chars.isEmpty then []
    else
      let (binding, rest) := step chars
      binding.toList ++ bindingsFrom fuel rest

/-! ## Variables in values -/

/-- The name, the default and the rest of a reference after its opening brace. -/
def reference? (chars : List Char) : Option (String × Option String × List Char) :=
  let stops := fun c => c == '\x7d' || c == ':'
  let name := String.ofList (chars.takeWhile fun c => !stops c)
  match chars.dropWhile fun c => !stops c with
  | '\x7d' :: rest => some (name, none, rest)
  | ':' :: '-' :: rest =>
    match rest.dropWhile (· != '\x7d') with
    | _ :: after => some (name, some (String.ofList (rest.takeWhile (· != '\x7d'))), after)
    | [] => none
  | _ => none

def lastValue? (name : String) (bindings : List Binding) : Option (Option String) :=
  (bindings.reverse.find? fun b => b.1 == name).map (·.2)

/-- A value with its references replaced; `fuel` bounds its length. -/
def substitute (lookup : String → Option (Option String)) : Nat → List Char → List Char
  | 0, chars => chars
  | _, [] => []
  | fuel + 1, '$' :: '\x7b' :: rest =>
    match reference? rest with
    | some (name, default, after) =>
      let found :=
        match lookup name with
        | some v => v.getD ""
        | none => default.getD ""
      found.toList ++ substitute lookup fuel after
    | none => '$' :: substitute lookup fuel ('\x7b' :: rest)
  | fuel + 1, c :: rest => c :: substitute lookup fuel rest

/-- The bindings with another value for a name, which keeps its place if it has one. -/
def setValue (name : String) (value : Option String) : List Binding → List Binding
  | [] => [(name, value)]
  | b :: rest => if b.1 == name then (name, value) :: rest else b :: setValue name value rest

/-- The bindings with references replaced, each seeing those before it, and every name once. -/
def resolve (environment : List (String × String)) (bindings : List Binding) : List Binding :=
  bindings.foldl (fun done (name, v) =>
    let lookup := fun n =>
      match lastValue? n done with
      | some v => some v
      | none => lastValue? n (environment.map fun (k, v) => (k, some v))
    setValue name (v.map fun s => String.ofList (substitute lookup (s.length + 1) s.toList)) done) []

def parse (environment : List (String × String)) (text : String) : List Binding :=
  let chars := unifyLines text.toList
  resolve environment (bindingsFrom (chars.length + 1) chars)

end StorageAgent.Dotenv
