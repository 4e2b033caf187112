import StorageAgent.Proofs.Json.Completeness

/-!
# Texts within the limits

A reader stops at an integer of too many digits and at lists and objects that are nested too
deeply. A text that has no more brackets than may be nested, and no more digits in a row than an
integer may have, is refused for its grammar alone.

* `Within`: such a text.
* `Tame`: what a step of the reader leaves then.
* `parse_within`: the only fault of such a text is that it is malformed.
-/
namespace StorageAgent.Json

variable {α β : Type} {chars rest : List Char} {negative : Bool} {fuel depth : Nat}
  {source : String} {done : List Json} {members : List (String × Json)}

/-- Whether a character opens a list or an object. -/
def opens (c : Char) : Bool := c == '[' || c == '\x7b'

/-- At most `depth` lists and objects are opened, and no row of digits is too long. -/
structure Within (depth : Nat) (chars : List Char) : Prop where
  depth : chars.countP opens ≤ depth
  digits : ∀ run, run <:+: chars → (∀ c ∈ run, isDigit c = true) → run.length ≤ digitLimit

theorem Within.suffix (h : Within depth chars) (hrest : rest <:+ chars) : Within depth rest where
  depth := Nat.le_trans (hrest.sublist.countP_le) h.depth
  digits := fun run hrun hdigits => h.digits run (hrun.trans hrest.isInfix) hdigits

theorem Within.tail {c : Char} (h : Within (depth + 1) (c :: rest)) (hc : opens c = true) :
    Within depth rest where
  depth := by
    have hcount := h.depth
    rw [List.countP_cons_of_pos hc] at hcount
    exact Nat.le_of_succ_le_succ hcount
  digits := (h.suffix (List.suffix_cons c rest)).digits

/-- A step leaves an end of its characters, or finds them malformed. -/
def Tame (chars : List Char) : Except Fault (α × List Char) → Prop
  | .ok (_, rest) => rest <:+ chars
  | .error fault => fault = .malformed

theorem Tame.of_suffix {r : Except Fault (α × List Char)} (h : Tame rest r) (hrest : rest <:+ chars) :
    Tame chars r := by
  cases r with
  | ok r => exact List.IsSuffix.trans h hrest
  | error fault => exact h

theorem Tame.bind {x : Except Fault (α × List Char)} {f : α × List Char → Except Fault (β × List Char)}
    (hx : Tame chars x) (hf : ∀ a rest, rest <:+ chars → Tame chars (f (a, rest))) :
    Tame chars (x >>= f) := by
  cases x with
  | ok r => exact hf r.1 r.2 hx
  | error fault => exact hx

theorem Within.not_opened {c : Char} (hc : opens c = true) : ¬ Within 0 (c :: rest) := by
  intro h
  have hcount := h.depth
  rw [List.countP_cons_of_pos hc] at hcount
  exact Nat.not_succ_le_zero _ hcount

theorem skipGap_suffix (chars : List Char) : skipGap chars <:+ chars := List.dropWhile_suffix _

/-! ## Texts and numbers -/

theorem tame_textUnits (chars : List Char) : Tame chars (textUnits chars) := by
  fun_induction textUnits chars with
  | case1 | case4 | case6 | case7 => rfl
  | case2 rest => exact List.suffix_cons _ rest
  | case3 a b c d rest _ _ ih =>
    exact (ih.of_suffix ⟨['\\', 'u', a, b, c, d], rfl⟩).bind fun _ _ h => h
  | case5 e rest _ _ _ ih => exact (ih.of_suffix ⟨['\\', e], rfl⟩).bind fun _ _ h => h
  | case8 c rest _ _ _ _ _ ih => exact (ih.of_suffix (List.suffix_cons c rest)).bind fun _ _ h => h

theorem tame_readText (chars : List Char) : Tame chars (readText chars) :=
  (tame_textUnits chars).bind fun _ _ h => h

theorem fraction_suffix (chars : List Char) : (fraction chars).2 <:+ chars := by
  obtain ⟨text, -, hchars⟩ := fraction_sound chars
  exact ⟨text, hchars.symm⟩

theorem exponent?_suffix {e : Int} (h : exponent? chars = some (e, rest)) : rest <:+ chars := by
  obtain ⟨power, -, hchars⟩ := exponent?_sound h
  exact ⟨power, hchars.symm⟩

theorem Within.length_wholePart (h : Within depth chars) : (wholePart chars).length ≤ digitLimit := by
  by_cases hnil : wholePart chars = []
  · rw [hnil]
    exact Nat.zero_le _
  · apply h.digits
    · exact List.IsPrefix.isInfix ⟨_, wholePart_append_drop chars⟩
    · exact (numeral_wholePart hnil).digit

theorem tame_unsigned (h : Within depth chars) : Tame chars (unsigned negative chars) := by
  rw [unsigned_eq]
  split
  · rfl
  dsimp only
  have hrest : (fraction (chars.drop (wholePart chars).length)).2 <:+ chars :=
    (fraction_suffix _).trans (List.drop_suffix _ _)
  split
  · next hexponent => exact (exponent?_suffix hexponent).trans hrest
  · split
    · rw [if_neg (Nat.not_lt.mpr h.length_wholePart)]
      exact hrest
    · exact hrest

theorem tame_readNumber (h : Within depth chars) : Tame chars (readNumber chars) := by
  unfold readNumber
  split
  · exact ⟨['N', 'a', 'N'], rfl⟩
  · exact ⟨['I', 'n', 'f', 'i', 'n', 'i', 't', 'y'], rfl⟩
  · exact ⟨['-', 'I', 'n', 'f', 'i', 'n', 'i', 't', 'y'], rfl⟩
  · have hrest := List.suffix_cons '-' ‹List Char›
    exact (tame_unsigned (h.suffix hrest)).of_suffix hrest
  · exact tame_unsigned h

/-! ## Values -/

/-- The readers with this much fuel leave ends of texts within the limits. -/
structure TameReaders (fuel : Nat) : Prop where
  value : ∀ depth chars, Within depth chars → Tame chars (readValue fuel depth chars)
  members : ∀ depth members chars, Within depth chars →
    Tame chars (readMembers fuel depth members chars)
  items : ∀ depth done chars, Within depth chars → Tame chars (readItems fuel depth done chars)

theorem tame_value (ih : TameReaders fuel) (h : Within depth chars) :
    Tame chars (readValue (fuel + 1) depth chars) := by
  unfold readValue
  split
  · next rest =>
    exact ((tame_readText rest).of_suffix (List.suffix_cons _ rest)).bind fun _ _ h => h
  · next rest =>
    have hrest := (skipGap_suffix rest).trans (List.suffix_cons '\x7b' rest)
    split
    · exact absurd h (Within.not_opened rfl)
    split
    · next hclose =>
      rw [hclose] at hrest
      exact (List.suffix_cons ..).trans hrest
    · exact (ih.members _ _ _ ((h.tail rfl).suffix (skipGap_suffix rest))).of_suffix hrest
  · next rest =>
    have hrest := (skipGap_suffix rest).trans (List.suffix_cons '[' rest)
    split
    · exact absurd h (Within.not_opened rfl)
    split
    · next hclose =>
      rw [hclose] at hrest
      exact (List.suffix_cons ..).trans hrest
    · exact (ih.items _ _ _ ((h.tail rfl).suffix (skipGap_suffix rest))).of_suffix hrest
  · exact ⟨['n', 'u', 'l', 'l'], rfl⟩
  · exact ⟨['t', 'r', 'u', 'e'], rfl⟩
  · exact ⟨['f', 'a', 'l', 's', 'e'], rfl⟩
  · exact tame_readNumber h

theorem tame_members (ih : TameReaders fuel) (h : Within depth chars) :
    Tame chars (readMembers (fuel + 1) depth members chars) := by
  unfold readMembers
  split
  · next rest =>
    refine ((tame_readText rest).of_suffix (List.suffix_cons _ rest)).bind fun name after hafter => ?_
    have hskip := (skipGap_suffix after).trans hafter
    dsimp only
    split
    · next rest hcolon =>
      rw [hcolon] at hskip
      have hvalue := (skipGap_suffix rest).trans ((List.suffix_cons ':' rest).trans hskip)
      refine ((ih.value _ _ (h.suffix hvalue)).of_suffix hvalue).bind fun value after hafter => ?_
      have hskip := (skipGap_suffix after).trans hafter
      dsimp only
      split
      · next hclose =>
        rw [hclose] at hskip
        exact (List.suffix_cons ..).trans hskip
      · next rest hcomma =>
        rw [hcomma] at hskip
        have hmore := (skipGap_suffix rest).trans ((List.suffix_cons ',' rest).trans hskip)
        exact (ih.members _ _ _ (h.suffix hmore)).of_suffix hmore
      · rfl
    · rfl
  · rfl

theorem tame_items (ih : TameReaders fuel) (h : Within depth chars) :
    Tame chars (readItems (fuel + 1) depth done chars) := by
  unfold readItems
  refine (ih.value _ _ h).bind fun value after hafter => ?_
  have hskip := (skipGap_suffix after).trans hafter
  dsimp only
  split
  · next hclose =>
    rw [hclose] at hskip
    exact (List.suffix_cons ..).trans hskip
  · next rest hcomma =>
    rw [hcomma] at hskip
    have hmore := (skipGap_suffix rest).trans ((List.suffix_cons ',' rest).trans hskip)
    exact (ih.items _ _ _ (h.suffix hmore)).of_suffix hmore
  · rfl

theorem tameReaders (fuel : Nat) : TameReaders fuel := by
  induction fuel with
  | zero =>
    refine ⟨?_, ?_, ?_⟩
    · intro depth chars _
      unfold readValue
      rfl
    · intro depth members chars _
      unfold readMembers
      rfl
    · intro depth done chars _
      unfold readItems
      rfl
  | succ fuel ih =>
    exact ⟨fun _ _ => tame_value ih, fun _ _ _ => tame_members ih, fun _ _ _ => tame_items ih⟩

/-- A text within the limits is read, or it is malformed. -/
theorem parse_within {fault : Fault} (h : Within depth source.toList)
    (hfault : parse depth source = .error fault) : fault = .malformed := by
  have hread : Tame _ (readValue (2 * source.toList.length + 2) depth (skipGap source.toList)) :=
    (tameReaders _).value _ _ (h.suffix (skipGap_suffix _))
  unfold parse at hfault
  dsimp only at hfault
  cases hvalue : readValue (2 * source.toList.length + 2) depth (skipGap source.toList) with
  | error found =>
    rw [hvalue] at hfault hread
    cases hfault
    exact hread
  | ok read =>
    rw [hvalue] at hfault
    change (if _ then _ else _) = _ at hfault
    split at hfault
    · cases hfault
    · cases hfault
      rfl

end StorageAgent.Json
