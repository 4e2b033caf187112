/-!
# Punycode

Host names are sent as ASCII (RFC 3492). The ASCII characters of a label come
first, then a hyphen, then numbers that say which other characters to insert,
and where. A number is written with 36 digits, the least significant first; a
digit below a threshold ends it, and the thresholds follow the numbers before.
-/
namespace StorageAgent.HostName.Punycode

/-- The threshold of the digit at position `j`. -/
def threshold (bias j : Nat) : Nat := min 26 (max 1 (36 * (j + 1) - bias))

theorem threshold_pos (bias j : Nat) : 1 ≤ threshold bias j := by
  unfold threshold; omega

/-- A difference cut down to the size of the numbers to come, and 36 for each time it was divided. -/
def cutDown (delta divisions : Nat) : Nat × Nat :=
  if 455 < delta then cutDown (delta / 35) (divisions + 36) else (delta, divisions)
termination_by delta
decreasing_by omega

/-- The bias after a number, of `count` characters so far. -/
def adapt (delta count : Nat) (isFirst : Bool) : Nat :=
  let halved := if isFirst then delta / 700 else delta / 2
  let (delta, divisions) := cutDown (halved + halved / count) 0
  divisions + 36 * delta / (delta + 38)

/-! ## Writing -/

def digit (n : Nat) : Char := if n < 26 then Char.ofNat (97 + n) else Char.ofNat (48 + (n - 26))

/-- The digits of a number, from position `j` on. -/
def writeNumber (bias j n : Nat) : List Char :=
  let t := threshold bias j
  if n < t then [digit n]
  else digit (t + (n - t) % (36 - t)) :: writeNumber bias (j + 1) ((n - t) / (36 - t))
termination_by n
decreasing_by
  have := threshold_pos bias j
  have := Nat.div_le_self (n - threshold bias j) (36 - threshold bias j)
  omega

/-- The state of writing: the text so far, the characters that it stands for, the difference since the
last of them, and the bias. -/
structure Writing where
  text : List Char
  count : Nat
  delta : Nat
  bias : Nat

/-- Passes a character of the label while the characters with number `n` are written; `basic` ones are
ASCII. -/
def pass (basic n : Nat) (w : Writing) (c : Char) : Writing :=
  if c.toNat < n then { w with delta := w.delta + 1 }
  else if c.toNat = n then
    { text := w.text ++ writeNumber w.bias 0 w.delta
      count := w.count + 1
      delta := 0
      bias := adapt w.delta (w.count + 1) (w.count == basic) }
  else w

/-- Writes the characters of the given numbers in a label, those below `from_` being written. -/
def writeAll (label : List Char) (basic : Nat) : Nat → List Nat → Writing → Writing
  | _, [], w => w
  | start, n :: rest, w =>
    let w := label.foldl (pass basic n) { w with delta := w.delta + (n - start) * (w.count + 1) }
    writeAll label basic (n + 1) rest { w with delta := w.delta + 1 }

def isAscii (c : Char) : Bool := decide (c.toNat < 128)

/-- The ASCII form of a label, without the mark that it is one. -/
def encode (label : List Char) : List Char :=
  let basic := label.filter isAscii
  let others := (label.filter fun c => !isAscii c).map Char.toNat
  let sorted := (others.mergeSort fun a b => decide (a ≤ b)).eraseDups
  let start := if basic.isEmpty then [] else basic ++ ['-']
  (writeAll label basic.length 128 sorted ⟨start, basic.length, 0, 72⟩).text

/-! ## Reading -/

def digitValue? (c : Char) : Option Nat :=
  if 'a' ≤ c ∧ c ≤ 'z' then some (c.toNat - 97)
  else if '0' ≤ c ∧ c ≤ '9' then some (c.toNat - 48 + 26)
  else none

/-- The number at the start of digits, added to `value`, and what follows it. -/
def readNumber? (bias : Nat) : Nat → Nat → Nat → List Char → Option (Nat × List Char)
  | _, _, _, [] => none
  | j, weight, value, c :: rest =>
    match digitValue? c with
    | none => none
    | some d =>
      let t := threshold bias j
      let value := value + d * weight
      if d < t then some (value, rest) else readNumber? bias (j + 1) (weight * (36 - t)) value rest

theorem length_readNumber? {bias : Nat} {chars : List Char} {j weight value n : Nat} {rest : List Char}
    (h : readNumber? bias j weight value chars = some (n, rest)) : rest.length < chars.length := by
  induction chars generalizing j weight value with
  | nil => simp [readNumber?] at h
  | cons c tail ih =>
    unfold readNumber? at h
    split at h
    · simp at h
    · rename_i d _
      simp only at h
      split at h
      · simp only [Option.some.injEq, Prod.mk.injEq] at h
        simp [← h.2]
      · have := ih h
        simp only [List.length_cons]
        omega

def char? (n : Nat) : Option Char := if n.isValidChar then some (Char.ofNat n) else none

/-- Inserts the characters that `chars` tell of into a text. The last one had number `n`; the next one
comes at position `i` or later. -/
def insertAll? (text : List Char) (n i bias : Nat) (isFirst : Bool) (chars : List Char) :
    Option (List Char) :=
  match chars with
  | [] => some text
  | c :: more =>
    match _ : readNumber? bias 0 1 0 (c :: more) with
    | none => none
    | some (delta, rest) =>
      let size := text.length + 1
      let n := n + (i + delta) / size
      let place := (i + delta) % size
      match char? n with
      | none => none
      | some inserted =>
        insertAll? (text.take place ++ inserted :: text.drop place) n (place + 1)
          (adapt delta size isFirst) false rest
termination_by chars.length
decreasing_by exact length_readNumber? (by assumption)

def decode? (form : List Char) : Option (List Char) :=
  let tail := (form.reverse.takeWhile (· != '-')).reverse
  let start := form.take (form.length - tail.length - 1)
  insertAll? start 128 0 72 true tail

end StorageAgent.HostName.Punycode
