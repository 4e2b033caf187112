import StorageAgent.Text.Alphanumeric
import StorageAgent.Text.Basic

/-!
# Wrapping lines

A paragraph is cut into chunks between which a line may end: blanks, words, the
parts of hyphenated words, and dashes between words. A line takes as many chunks
as fit. A chunk that is wider than a line is cut, after a hyphen if it has one.
-/
namespace StorageAgent.Text.Wrap

/-- The blanks at which lines may end. -/
def isGap (c : Char) : Bool :=
  let n := c.toNat
  decide (n = 0x20 ∨ (9 ≤ n ∧ n ≤ 13))

def isWordChar (c : Char) : Bool := isAlphanumeric c || c == '_'

def isLetter (c : Char) : Bool := isWordChar c && (digitValue? c).isNone

/-- Characters that a dash may follow. -/
def mayEndWord (c : Char) : Bool :=
  isWordChar c || ['!', '"', '\'', '&', '.', ',', '?'].contains c

/-! ## Chunks -/

/-- What the chunk at hand is made of. -/
inductive Kind where
  | gap
  | word
  | dash
  /-- The chunk is complete. -/
  | done
  deriving DecidableEq, Repr

/-- Whether a dash between words comes next. `seen` is what stands before it, the last character
first. -/
def dashAhead (seen chars : List Char) : Bool :=
  match seen with
  | [] => false
  | last :: _ =>
    mayEndWord last && decide (2 ≤ (chars.takeWhile (· == '-')).length) &&
      match chars.dropWhile (· == '-') with
      | [] => false
      | c :: _ => isWordChar c

/-- Whether two letters, or two with a hyphen between them, come first. -/
def twoLetters : List Char → Bool
  | a :: '-' :: b :: _ => isLetter a && isLetter b
  | a :: b :: _ => isLetter a && isLetter b
  | _ => false

/-- The kind of a chunk that begins with `c`. -/
def kindAt (seen : List Char) (c : Char) (rest : List Char) : Kind :=
  if isGap c then .gap else if dashAhead seen (c :: rest) then .dash else .word

/-- The kind of a chunk of the given kind after it has taken `c`, if it takes it. -/
def extend (kind : Kind) (seen : List Char) (c : Char) (rest : List Char) : Option Kind :=
  match kind with
  | .gap => if isGap c then some .gap else none
  | .dash => if c = '-' then some .dash else none
  | .done => none
  | .word =>
    if isGap c then none
    else if dashAhead seen (c :: rest) then none
    else if c = '-' ∧ twoLetters seen ∧ twoLetters rest then some .done
    else some .word

/-- The chunks of what follows `seen`, the first of which begins with `chunk`; both are reversed. -/
def chunksFrom (seen chunk : List Char) (kind : Kind) : List Char → List (List Char)
  | [] => [chunk.reverse]
  | c :: rest =>
    match extend kind seen c rest with
    | some kind => chunksFrom (c :: seen) (c :: chunk) kind rest
    | none => chunk.reverse :: chunksFrom (c :: seen) [c] (kindAt seen c rest) rest

def chunks : List Char → List (List Char)
  | [] => []
  | c :: rest => chunksFrom [c] [c] (kindAt [] c rest) rest

/-! ## Lines -/

/-- As many chunks as fit into `room`, and the others. -/
def takeFitting : Nat → List (List Char) → List (List Char) × List (List Char)
  | _, [] => ([], [])
  | room, chunk :: rest =>
    if chunk.length ≤ room then
      let (line, others) := takeFitting (room - chunk.length) rest
      (chunk :: line, others)
    else ([], chunk :: rest)

/-- Where a chunk that has only `room` is cut: after the last hyphen that fits, if anything else
stands before it. -/
def cutAt (room : Nat) (chunk : List Char) : Nat :=
  let fitting := chunk.take room
  let behind := (fitting.reverse.takeWhile (· != '-')).length
  let before := fitting.take (room - behind - 1)
  if behind < fitting.length && before.any (· != '-') then room - behind else room

/-- A line without the gap at its end. -/
def dropGap (line : List (List Char)) : List (List Char) :=
  match line.reverse with
  | last :: rest => if last.all isSpacing then rest.reverse else line
  | [] => []

/-- The lines of some chunks. Every line takes a character at least, so `fuel` may be one more than
their number. -/
def linesFrom (width : Nat) : Nat → Bool → List (List Char) → List (List Char)
  | 0, _, _ => []
  | _, _, [] => []
  | fuel + 1, isFirst, chunk :: others =>
    let chunks := if !isFirst && chunk.all isSpacing then others else chunk :: others
    let (line, rest) := takeFitting width chunks
    let (line, rest) :=
      match rest with
      | wide :: others =>
        if width < wide.length then
          let cut := cutAt (width - line.flatten.length) wide
          (line ++ [wide.take cut], wide.drop cut :: others)
        else (line, rest)
      | [] => (line, rest)
    match dropGap line with
    | [] => linesFrom width fuel isFirst rest
    | line => line.flatten :: linesFrom width fuel false rest

/-- A paragraph with single blanks for all gaps. -/
def squeeze (chars : List Char) : List Char :=
  let marked := chars.foldr
    (fun c done =>
      if isGap c then
        match done with
        | ' ' :: _ => done
        | _ => ' ' :: done
      else c :: done) []
  trimBy isSpacing marked

/-- A paragraph as lines of at most `width` characters. -/
def wrap (width : Nat) (paragraph : String) : List String :=
  let chars := squeeze paragraph.toList
  (linesFrom width (chars.length + 1) true (chunks chars)).map String.ofList

end StorageAgent.Text.Wrap
