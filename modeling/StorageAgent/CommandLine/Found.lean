import StorageAgent.CommandLine.Grammar
import StorageAgent.Text.Basic

/-!
# What stands on a command line

Words are told apart first: flags begin with a hyphen and may be shortened as
long as one flag alone is meant, a value may be attached to a flag by `=`, and
all words after `--` are operands. Then each flag takes its value and each
operand its word, in the order of the line; what is left over is extra.
-/
namespace StorageAgent.CommandLine

/-- What is wrong with a command line. -/
inductive Complaint where
  | ambiguous (word : String) (candidates : List String)
  | noValue (flag : Flag)
  | needlessValue (flag : Flag) (value : String)
  | noInteger (flag : Flag) (value : String)
  | noCommand (word : String)
  | noRequestType (word : String)
  | missing (operands : List Operand)
  | unrecognized (words : List String)
  deriving DecidableEq, Repr

namespace Complaint

def flagText (f : Flag) : String := "/".intercalate f.names

def requestTypeText (word : String) : String :=
  "unknown request type " ++ Text.quote word ++ " (choose from " ++
    ", ".intercalate requestTypeNames ++ ")"

def message : Complaint → String
  | ambiguous word candidates =>
    "ambiguous option: " ++ word ++ " could match " ++ ", ".intercalate candidates
  | noValue f => "argument " ++ flagText f ++ ": expected one argument"
  | needlessValue f value =>
    "argument " ++ flagText f ++ ": ignored explicit argument " ++ Text.quote value
  | noInteger f value => "argument " ++ flagText f ++ ": invalid int value: " ++ Text.quote value
  | noCommand word =>
    "argument " ++ Operand.command.label ++ ": invalid choice: " ++ Text.quote word ++
      " (choose from " ++ ", ".intercalate (CommandName.all.map fun c => Text.quote c.word) ++ ")"
  | noRequestType word => "argument " ++ Operand.requestType.label ++ ": " ++ requestTypeText word
  | missing operands =>
    "the following arguments are required: " ++ ", ".intercalate (operands.map Operand.label)
  | unrecognized words => "unrecognized arguments: " ++ " ".intercalate words

end Complaint

/-! ## Telling words apart -/

def separator : String := "--"

/-- What a word is. -/
inductive Token where
  | operand
  | separator
  | flag (flag : Flag) (name : String) (attached : Option String)
  /-- A word that looks like a flag. -/
  | unknown

def Grammar.flag? (g : Grammar) (name : String) : Option Flag :=
  (g.flags.map (·.1)).find? fun f => f.names.contains name

def Grammar.spellings (g : Grammar) : List (String × Flag) :=
  g.flags.flatMap fun (f, _) => f.names.map (·, f)

/-- A word as what stands before its first equals sign, and what stands after it. -/
def splitEquals (word : String) : String × Option String :=
  let chars := word.toList
  match chars.dropWhile (· != '=') with
  | [] => (word, none)
  | _ :: rest => (String.ofList (chars.takeWhile (· != '=')), some (String.ofList rest))

/-- Whether a word is a negative number, which is no flag. A line feed may follow it. -/
def isNegativeNumber (word : String) : Bool :=
  let chars := word.toList
  let chars := if chars.getLast? = some '\n' then chars.dropLast else chars
  let isDigit := fun c => (Text.digitValue? c).isSome
  match chars with
  | '-' :: rest =>
    match rest.dropWhile isDigit with
    | [] => !rest.isEmpty
    | '.' :: decimals => !decimals.isEmpty && decimals.all isDigit
    | _ => false
  | _ => false

/-- The flags that a word may be meant for: a long one by its beginning, or the short one that it
begins with. -/
def Grammar.candidates (g : Grammar) (word : String) : List (String × Flag × Option String) :=
  if word.startsWith "--" then
    let (start, value) := splitEquals word
    (g.spellings.filter fun s => s.1.startsWith start).map fun (name, f) =>
      (name, f, value)
  else
    let short := String.ofList (word.toList.take 2)
    let tail := String.ofList (word.toList.drop 2)
    (g.spellings.filter fun s => s.1 == short).map fun (name, f) => (name, f, some tail)

/-- What a word that begins with a hyphen and is no spelling of a flag is. -/
def Grammar.guess (g : Grammar) (word : String) : Except Complaint Token :=
  match g.candidates word with
  | [(name, f, attached)] => .ok (.flag f name attached)
  | [] =>
    if isNegativeNumber word || word.toList.contains ' ' then .ok .operand else .ok .unknown
  | several => .error (.ambiguous word (several.map (·.1)))

def Grammar.token (g : Grammar) (word : String) : Except Complaint Token :=
  if !word.startsWith "-" || word == "-" then .ok .operand
  else
    match g.flag? word with
    | some f => .ok (.flag f word none)
    | none =>
      match splitEquals word with
      | (name, some value) =>
        match g.flag? name with
        | some f => .ok (.flag f name (some value))
        | none => g.guess word
      | (_, none) => g.guess word

/-- The words of a line and what they are. -/
def Grammar.tokens (g : Grammar) : List String → Except Complaint (List (String × Token))
  | [] => .ok []
  | w :: rest =>
    if w == separator then .ok ((w, .separator) :: rest.map (·, .operand))
    else do
      let t ← g.token w
      let more ← g.tokens rest
      return (w, t) :: more

/-! ## Giving words to flags and operands -/

inductive Found where
  /-- A flag with its value, of which there is none if the separator is attached to the flag. -/
  | flag (flag : Flag) (value : Option String)
  /-- An operand with its words, of which the separator is none. -/
  | operand (operand : Operand) (words : List String)
  | extra (word : String)
  | complaint (complaint : Complaint)

/-- What is attached to the short flag for help: the same flag again any number of times, and nothing
else. -/
def attachedToHelp (tail : List Char) : Found :=
  match tail.dropWhile (· == 'h') with
  | [] => if tail.isEmpty then .complaint (.needlessValue .help "") else .flag .help none
  | rest => .complaint (.needlessValue .help (String.ofList rest))

/-- A flag that something is attached to. The separator is no value. -/
def foundAttached (f : Flag) (name : String) (text : String) : Found :=
  match f.valueName? with
  | some _ => .flag f (if text == separator then none else some text)
  | none =>
    if name.startsWith "--" then .complaint (.needlessValue f text)
    else attachedToHelp text.toList

/-- What is found, where these operands are still wanted. After a complaint nothing more is read. -/
def assign : List Operand → List (String × Token) → List Found
  | _, [] => []
  | wanted, (w, .unknown) :: rest => .extra w :: assign wanted rest
  | wanted, (_, .flag f name (some a)) :: rest => foundAttached f name a :: assign wanted rest
  | wanted, (_, .flag f _ none) :: rest =>
    match f.valueName?, rest with
    | none, rest => .flag f none :: assign wanted rest
    | some _, (value, .operand) :: rest => .flag f (some value) :: assign wanted rest
    | some _, _ => [.complaint (.noValue f)]
  | [], (w, _) :: rest => .extra w :: assign [] rest
  | .command :: _, (w, .operand) :: rest => [.operand .command (w :: rest.map (·.1))]
  | .command :: _, (w, .separator) :: (a, _) :: rest =>
    [.operand .command (w :: a :: rest.map (·.1))]
  | o :: wanted, (w, .operand) :: (_, .separator) :: rest => .operand o [w] :: assign wanted rest
  | o :: wanted, (w, .operand) :: rest => .operand o ([w].erase separator) :: assign wanted rest
  | o :: wanted, (_, .separator) :: (a, _) :: rest => .operand o [a] :: assign wanted rest
  | _, (w, .separator) :: [] => [.extra w]

def Grammar.find (g : Grammar) (words : List String) : List Found :=
  match g.tokens words with
  | .error c => [.complaint c]
  | .ok tokens => assign (g.operands.map (·.1)) tokens

end StorageAgent.CommandLine
