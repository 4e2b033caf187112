import StorageAgent.CommandLine.Invocation
import StorageAgent.Template
import StorageAgent.Text.Wrap

/-!
# Usage

How a grammar is shown on a screen: the usage, which names all flags and
operands, and the help text, which explains them. Explanations stand in a column
of their own, beside short labels and under long ones.
-/
namespace StorageAgent.CommandLine

def screenWidth : Nat := 78

/-- The farthest column at which explanations begin. -/
def lastHelpColumn : Nat := 24

def blanks (n : Nat) : String := String.ofList (List.replicate n ' ')

def commandSet : String := "\x7b" ++ ",".intercalate (CommandName.all.map (·.word)) ++ "\x7d"

/-! ## The usage -/

def Flag.usage (f : Flag) : String :=
  let name := f.names.headD ""
  match f.valueName? with
  | none => "[" ++ name ++ "]"
  | some value => "[" ++ name ++ " " ++ value ++ "]"

def Operand.usage : Operand → List String
  | .command => [commandSet, "..."]
  | o => [o.label]

/-- Words in lines, where `line` has been filled so far with `used` characters and later lines begin
with `margin` blanks. -/
def fillLines (margin : Nat) : Nat → List String → List String → List String
  | _, line, [] => if line.isEmpty then [] else [" ".intercalate line]
  | used, line, w :: rest =>
    if !line.isEmpty && decide (screenWidth < used + w.length) then
      " ".intercalate line :: fillLines margin (margin + w.length + 1) [w] rest
    else fillLines margin (used + w.length + 1) (line ++ [w]) rest

/-- The lines of a usage: one if that is long enough, else the operands begin a line of their own. -/
def Grammar.usage (g : Grammar) : List String :=
  let lead := "usage: "
  let flags := g.program :: g.flags.map (·.1.usage)
  let operands := g.operands.flatMap (·.1.usage)
  let line := lead ++ " ".intercalate (flags ++ operands)
  if line.length ≤ screenWidth then [line]
  else
    let margin := lead.length + g.program.length + 1
    let indented := (fillLines margin margin [] operands).map (blanks margin ++ ·)
    match fillLines margin lead.length [] flags with
    | [] => indented
    | first :: more => (lead ++ first) :: (more.map (blanks margin ++ ·) ++ indented)

def Grammar.complaintLines (g : Grammar) (c : Complaint) : List String :=
  g.usage ++ [g.program ++ ": error: " ++ c.message]

/-! ## The help text -/

/-- A label with its explanation. -/
structure Row where
  margin : Nat
  label : String
  help : String

/-- The lines of a row, with explanations from `column` on. -/
def Row.lines (column : Nat) (r : Row) : List String :=
  let start := blanks r.margin ++ r.label
  let help := Text.Wrap.wrap (screenWidth - column) r.help
  if start.length + 2 ≤ column then
    match help with
    | [] => [start]
    | first :: more =>
      (start ++ blanks (column - start.length) ++ first) :: more.map (blanks column ++ ·)
  else start :: help.map (blanks column ++ ·)

def Flag.label (f : Flag) : String :=
  ", ".intercalate (f.names.map fun name =>
    match f.valueName? with
    | none => name
    | some value => name ++ " " ++ value)

def Flag.row (f : Flag) (help : String) : Row := ⟨2, f.label, help⟩

/-- The rows of an operand; the commands have rows of their own. -/
def Operand.rows (o : Operand) (help : String) : List Row :=
  match o with
  | .command => ⟨2, commandSet, ""⟩ :: CommandName.all.map fun c => ⟨4, c.word, c.help⟩
  | o => [⟨2, o.label, help⟩]

/-- What the template of a flag's help may name. -/
def Flag.members (f : Flag) (program help : String) : List (String × Json) :=
  [("option_strings", .list (f.names.map .text)), ("dest", .text (Text.lower (f.valueName?.getD ""))),
    ("nargs", .null), ("const", .null), ("default", .null), ("type", .null), ("choices", .null),
    ("required", .bool false), ("help", .text help), ("metavar", .null), ("prog", .text program)]

def ofTemplateFault : Template.Fault → Failure
  | .wrongKind => Failure.of .wrongKind
  | .malformed => Failure.of .badValue
  | .noKey => Failure.of .noKey
  | .tooLarge => Failure.of .overflow
  | .noMemory => Failure.of .memory

def block (column : Nat) (title : String) (rows : List Row) : List (List String) :=
  if rows.isEmpty then [] else [title :: rows.flatMap (Row.lines column)]

/-- The lines of some blocks, with an empty line between them. -/
def spaced : List (List String) → List String
  | [] => []
  | [b] => b
  | b :: rest => b ++ "" :: spaced rest

def Grammar.help (g : Grammar) : Except Failure (List String) := do
  let flags ← g.flags.mapM fun (f, help) => do
    let help ← (Template.fill help (.named (f.members g.program help))).mapError ofTemplateFault
    return f.row help
  let operands := g.operands.flatMap fun (o, help) => o.rows help
  let widest := (flags ++ operands).foldl (fun n r => max n r.label.length) 0
  let column := min (widest + 4) lastHelpColumn
  let about := if g.description.isEmpty then [] else [[g.description]]
  return spaced (g.usage :: about ++ block column "positional arguments:" operands ++
    block column "options:" flags)

end StorageAgent.CommandLine
