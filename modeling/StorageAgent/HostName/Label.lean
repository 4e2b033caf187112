import StorageAgent.Bytes
import StorageAgent.HostName.Letter
import StorageAgent.HostName.Composition
import StorageAgent.HostName.Punycode
import StorageAgent.Text.Basic

/-!
# Host names

A host is named by an address or by labels between dots (RFC 5891). A label is
composed, holds characters of host names only, does not begin with a mark, has
hyphens inside and not in third and fourth place, and follows the rule of
bidirectional text (RFC 5893). Labels and names have a greatest length.
-/
namespace StorageAgent.HostName

/-! ## Numeric host names

Four numbers between points, or up to eight groups of hexadecimal digits between colons in
brackets. A text that looks like the first kind is not taken as a name. -/

/-- Whether digits spell a number below 256 without leading zeros. -/
def isOctet (digits : List Char) : Bool :=
  !digits.isEmpty && decide (digits.length ≤ 3) && digits.all Char.isDigit &&
    (digits == ['0'] || digits.head? != some '0') &&
    decide (digits.foldl (fun n c => 10 * n + (c.toNat - '0'.toNat)) 0 ≤ 255)

def isFourPart (chars : List Char) : Bool :=
  let parts := Text.splitBy (· == '.') chars
  decide (parts.length = 4) && parts.all isOctet

/-- The lengths of the runs of digits in a text, and how many other characters separate them. -/
def digitRuns : List Char → List Nat × Nat
  | [] => ([0], 0)
  | c :: rest =>
    match digitRuns rest with
    | ([], others) => ([], others)
    | (run :: runs, others) =>
      if c.isDigit then ((run + 1) :: runs, others) else (0 :: run :: runs, others + 1)

/-- Whether a text can be read as four runs of digits with one character, of any kind, between each two.
A digit can stand between two runs if it has digits on both sides. -/
def looksFourPart (chars : List Char) : Bool :=
  let (runs, others) := digitRuns chars
  let spare := (runs.map fun run => (run - 1) / 2).foldl (· + ·) 0
  runs.all (0 < ·) && decide (others ≤ 3) && decide (3 ≤ others + spare)

def isGroup (digits : List Char) : Bool :=
  !digits.isEmpty && decide (digits.length ≤ 4) && digits.all fun c => (Bytes.hexValue? c).isSome

/-- The groups of an address; four numbers at the end stand for two groups. -/
def groups? (chars : List Char) : Option (List (List Char)) :=
  let parts := Text.splitBy (· == ':') chars
  let last := parts.getLastD []
  if parts.length < 3 then none
  else if last.contains '.' then
    if isFourPart last then some (parts.dropLast ++ [['0'], ['0']]) else none
  else some parts

/-- Whether groups make an address of eight. One empty group, in the middle or at an end where it has an
empty one beside it, stands for one or more groups of zeros. -/
def isEight (groups : List (List Char)) : Bool :=
  let inner := (groups.drop 1).dropLast
  let gaps := (inner.filter List.isEmpty).length
  if gaps = 0 then decide (groups.length = 8) && groups.all isGroup
  else
    let before := groups.takeWhile fun g => !g.isEmpty
    let after := (groups.reverse.takeWhile fun g => !g.isEmpty).reverse
    let opens := decide (groups.head? = some [])
    let closes := decide (groups.getLast? = some [])
    let ends := (if opens then 1 else 0) + (if closes then 1 else 0)
    decide (gaps = 1) && decide (before.length + after.length + 1 + ends = groups.length) &&
      decide (before.length + after.length ≤ 7) && before.all isGroup && after.all isGroup

/-- Whether a text is an address of eight groups, with the name of a network after a percent sign or
without one. -/
def isEightPart (chars : List Char) : Bool :=
  let address := chars.takeWhile (· != '%')
  let zone := chars.drop address.length
  (zone.isEmpty || (decide (1 < zone.length) && !(zone.drop 1).contains '%')) &&
    !chars.contains '/' &&
    match groups? address with
    | none => false
    | some groups => decide (groups.length ≤ 9) && isEight groups

/-! ## Conditional characters -/

def viramaClass : Nat := 9

/-- Whether a character comes after a mark that kills a vowel. -/
def followsVirama : List Char → Bool
  | before :: _ => markClass before.toNat == viramaClass
  | [] => false

/-- Whether a letter, transparent characters aside, comes next and joins. -/
def meets (joins : Char → Bool) (chars : List Char) : Bool :=
  match chars.dropWhile isTransparent with
  | c :: _ => joins c
  | [] => false

/-- Whether the next character, if there is one, is in a script. -/
def nextIn (script : List (Nat × Nat)) : List Char → Bool
  | c :: _ => Text.inRuns script c.toNat
  | [] => false

/-- Whether a character may stand in `label`, after the characters `before`, last first, and before the
characters `after`. -/
def fits (label before after : List Char) (c : Char) : Bool :=
  if c.toNat = 0x200C then followsVirama before || (meets joinsAfter before && meets joinsBefore after)
  else if c.toNat = 0x200D then followsVirama before
  else if c.toNat = 0xB7 then before.head? == some 'l' && after.head? == some 'l'
  else if c.toNat = 0x375 then nextIn greekLetters after
  else if c.toNat = 0x5F3 ∨ c.toNat = 0x5F4 then nextIn hebrewLetters before
  else if c.toNat = 0x30FB then label.any fun c => Text.inRuns japaneseLetters c.toNat
  else if isArabicDigit c then !label.any isExtendedDigit
  else if isExtendedDigit c then !label.any isArabicDigit
  else true

/-- Whether all characters of `label` from some place on may stand where they do. -/
def allFit (label : List Char) : List Char → List Char → Bool
  | _, [] => true
  | before, c :: after => fits label before after c && allFit label (c :: before) after

/-! ## Bidirectional text -/

def isRightward : Direction → Bool
  | .left => false
  | _ => true

def isLeftward : Direction → Bool
  | .right | .arabic | .arabicNumber => false
  | _ => true

/-- The last direction that is no mark. -/
def ending? (directions : List Direction) : Option Direction :=
  (directions.reverse.dropWhile (· == .mark)).head?

/-- Whether the directions of a label go together. Only labels with right-to-left characters can fail. -/
def isDirected (directions : List Direction) : Bool :=
  if directions.any fun d => d == .right || d == .arabic || d == .arabicNumber then
    match directions.head?, ending? directions with
    | some .right, some last | some .arabic, some last =>
      directions.all isRightward &&
        [Direction.right, .arabic, .europeanNumber, .arabicNumber].contains last &&
        !(directions.contains .arabicNumber && directions.contains .europeanNumber)
    | some .left, some last =>
      directions.all isLeftward && [Direction.left, .europeanNumber].contains last
    | _, _ => false
  else true

/-! ## Labels and names -/

def labelLimit : Nat := 63

/-- The greatest length of a name; a dot at the end does not count. -/
def nameLimit : Nat := 253

/-- Whether hyphens stand inside a label only, and not in both the third and the fourth place. -/
def isHyphenated (label : List Char) : Bool :=
  (label.drop 2).take 2 != ['-', '-'] && label.head? != some '-' && label.getLast? != some '-'

/-- Whether characters make a label, its length aside. -/
def isLabel (label : List Char) : Bool :=
  !label.isEmpty && decide (label.length ≤ nameLimit + 1) && isHyphenated label &&
    match label.mapM direction? with
    | none => false
    | some directions =>
      !(label.head?.map isMark).getD true && allFit label [] label && isDirected directions &&
        isComposed label

def formMark : List Char := ['x', 'n', '-', '-']

/-- Whether an ASCII text in lower case is a label, or the form of one. -/
def isAsciiLabel (label : List Char) : Bool :=
  if formMark.isPrefixOf label then
    let form := label.drop formMark.length
    !form.isEmpty && form.getLast? != some '-' && (Punycode.decode? form).any isLabel
  else isLabel label

/-- The ASCII form of a label in lower case. -/
def form? (label : List Char) : Option (List Char) :=
  let written := if label.all Punycode.isAscii then label else formMark ++ Punycode.encode label
  let valid := if label.all Punycode.isAscii then isAsciiLabel label else isLabel label
  if valid && decide (written.length ≤ labelLimit) then some written else none

def isDot (c : Char) : Bool := [0x2E, 0x3002, 0xFF0E, 0xFF61].contains c.toNat

def isValid (text : List Char) : Bool :=
  let name := text.flatMap lowerForm
  let parts := Text.splitBy isDot name
  let labels := if parts.getLast? == some [] then parts.dropLast else parts
  decide (name.length ≤ nameLimit + 1) && !labels.isEmpty &&
    match labels.mapM form? with
    | none => false
    | some forms => decide ((forms.map (·.length + 1)).foldl (· + ·) 0 ≤ nameLimit + 1)

end StorageAgent.HostName
