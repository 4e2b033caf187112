import StorageAgent.Json.Reader
import StorageAgent.Proofs.Payload.Checked

/-!
# The grammar of JSON

The texts of RFC 8259 with the values that they spell, apart from the reader. The reader takes three
words for numbers that the grammar does not have (`Word`), and it stops at integers of too many
digits and at lists and objects nested too deeply. So the grammar is stated with and without these
words, and says how many digits and how much depth a text needs.

* `Spells`: the grammar. `IsJson` is what RFC 8259 allows.
* `parse_sound`: what is read is spelled.
-/
namespace StorageAgent.Json

/-! ## The grammar -/

/-- Characters that may stand between tokens. -/
def Gap (gap : List Char) : Prop := ∀ c ∈ gap, isGap c = true

/-- Digits, and at least one. -/
structure Digits (chars : List Char) : Prop where
  nonempty : chars ≠ []
  digit : ∀ c ∈ chars, isDigit c = true

/-- The digits of an integer. Only the integer 0 begins with a zero. -/
structure Numeral (chars : List Char) : Prop extends Digits chars where
  zero : chars.head? = some '0' → chars = ['0']

/-- An integer from its sign and its digits. -/
def signed (negative : Bool) (whole : List Char) : Int :=
  if negative then -(digitsValue whole : Int) else digitsValue whole

/-- The sign of a number. -/
def sign (negative : Bool) : List Char := if negative then ['-'] else []

/-- What stands between the whole part of a number and its exponent, and the decimal places. -/
inductive Fraction : List Char → List Char → Prop where
  | absent : Fraction [] []
  | places {places : List Char} (h : Digits places) : Fraction ('.' :: places) places

/-- An exponent and its value. -/
inductive Exponent : List Char → Int → Prop where
  | plain {e : Char} {chars : List Char} (he : e = 'e' ∨ e = 'E') (h : Digits chars) :
      Exponent (e :: chars) (signed false chars)
  | plus {e : Char} {chars : List Char} (he : e = 'e' ∨ e = 'E') (h : Digits chars) :
      Exponent (e :: '+' :: chars) (signed false chars)
  | minus {e : Char} {chars : List Char} (he : e = 'e' ∨ e = 'E') (h : Digits chars) :
      Exponent (e :: '-' :: chars) (signed true chars)

/-- A number. It is an integer if it has neither a fraction nor an exponent. -/
inductive Number (digits : Nat) : List Char → Json → Prop where
  | int {negative : Bool} {whole : List Char} (h : Numeral whole) (hdigits : whole.length ≤ digits) :
      Number digits (sign negative ++ whole) (.int (signed negative whole))
  | fraction {negative : Bool} {whole places : List Char} (h : Numeral whole)
      (hplaces : Digits places) :
      Number digits (sign negative ++ (whole ++ '.' :: places))
        (.float (Decimal.ofDecimal negative (digitsValue (whole ++ places)) (-places.length)))
  | exponent {negative : Bool} {whole chars places power : List Char} {e : Int} (h : Numeral whole)
      (hfraction : Fraction chars places) (hpower : Exponent power e) :
      Number digits (sign negative ++ (whole ++ (chars ++ power)))
        (.float (Decimal.ofDecimal negative (digitsValue (whole ++ places)) (e - places.length)))

/-- The words that are read as numbers. -/
inductive Word : List Char → Float → Prop where
  | nan : Word ['N', 'a', 'N'] (0.0 / 0.0)
  | infinity : Word ['I', 'n', 'f', 'i', 'n', 'i', 't', 'y'] (1.0 / 0.0)
  | minus : Word ['-', 'I', 'n', 'f', 'i', 'n', 'i', 't', 'y'] (-1.0 / 0.0)

/-- A character of a text, itself or escaped, and its number. -/
inductive Letter : List Char → Nat → Prop where
  | plain {c : Char} (hlow : 0x20 ≤ c.toNat) (hquote : c ≠ '"') (hescape : c ≠ '\\') :
      Letter [c] c.toNat
  | escaped {e : Char} {n : Nat} (h : escaped? e = some n) : Letter ['\\', e] n
  | numbered {a b c d : Char} {n : Nat} (h : hexQuad? a b c d = some n) :
      Letter ['\\', 'u', a, b, c, d] n

/-- Characters of a text in a row. -/
inductive Letters : List Char → List Nat → Prop where
  | nil : Letters [] []
  | cons {text rest : List Char} {n : Nat} {units : List Nat} (h : Letter text n)
      (hrest : Letters rest units) : Letters (text ++ rest) (n :: units)

/-- A text between quotes. -/
inductive Quoted : List Char → String → Prop where
  | mk {chars : List Char} {units : List Nat} (h : Letters chars units) :
      Quoted ('"' :: (chars ++ ['"'])) (String.ofList (joinSurrogates units))

/-- The name of a member, with its colon and the gap before the value. -/
inductive Named : List Char → String → Prop where
  | mk {chars gap gap' : List Char} {name : String} (h : Quoted chars name) (hgap : Gap gap)
      (hgap' : Gap gap') : Named (chars ++ (gap ++ ':' :: gap')) name

/-- What a piece of a text stands for: one value, the items of a list with its closing bracket, or
the members of an object with its closing brace. -/
inductive Piece where
  | value (v : Json)
  | items (vs : List Json)
  | members (pairs : List (String × Json))

/-- Members behind those there are. Of repeated members the last value counts. -/
def gather (done pairs : List (String × Json)) : List (String × Json) :=
  pairs.foldl (fun done pair => setMember pair.1 pair.2 done) done

/-- What a text spells, with integers of at most `digits` digits and lists and objects nested at most
so deeply. The words that stand for numbers may occur if `words` says so. -/
inductive Spells (words : Bool) (digits : Nat) : Nat → List Char → Piece → Prop where
  | null {depth : Nat} : Spells words digits depth ['n', 'u', 'l', 'l'] (.value .null)
  | yes {depth : Nat} : Spells words digits depth ['t', 'r', 'u', 'e'] (.value (.bool true))
  | no {depth : Nat} : Spells words digits depth ['f', 'a', 'l', 's', 'e'] (.value (.bool false))
  | text {depth : Nat} {chars : List Char} {s : String} (h : Quoted chars s) :
      Spells words digits depth chars (.value (.text s))
  | number {depth : Nat} {chars : List Char} {v : Json} (h : Number digits chars v) :
      Spells words digits depth chars (.value v)
  | word {depth : Nat} {chars : List Char} {x : Float} (hwords : words = true) (h : Word chars x) :
      Spells words digits depth chars (.value (.float x))
  | emptyList {depth : Nat} {gap : List Char} (hgap : Gap gap) :
      Spells words digits (depth + 1) ('[' :: (gap ++ [']'])) (.value (.list []))
  | list {depth : Nat} {gap text : List Char} {vs : List Json} (hgap : Gap gap)
      (h : Spells words digits depth text (.items vs)) :
      Spells words digits (depth + 1) ('[' :: (gap ++ text)) (.value (.list vs))
  | emptyObject {depth : Nat} {gap : List Char} (hgap : Gap gap) :
      Spells words digits (depth + 1) ('\x7b' :: (gap ++ ['\x7d'])) (.value (.object []))
  | object {depth : Nat} {gap text : List Char} {pairs : List (String × Json)} (hgap : Gap gap)
      (h : Spells words digits depth text (.members pairs)) :
      Spells words digits (depth + 1) ('\x7b' :: (gap ++ text)) (.value (.object (gather [] pairs)))
  | lastItem {depth : Nat} {text gap : List Char} {v : Json}
      (h : Spells words digits depth text (.value v)) (hgap : Gap gap) :
      Spells words digits depth (text ++ (gap ++ [']'])) (.items [v])
  | item {depth : Nat} {text gap gap' rest : List Char} {v : Json} {vs : List Json}
      (h : Spells words digits depth text (.value v)) (hgap : Gap gap) (hgap' : Gap gap')
      (hrest : Spells words digits depth rest (.items vs)) :
      Spells words digits depth (text ++ (gap ++ ',' :: (gap' ++ rest))) (.items (v :: vs))
  | lastMember {depth : Nat} {chars text gap : List Char} {name : String} {v : Json}
      (hname : Named chars name) (h : Spells words digits depth text (.value v)) (hgap : Gap gap) :
      Spells words digits depth (chars ++ (text ++ (gap ++ ['\x7d']))) (.members [(name, v)])
  | member {depth : Nat} {chars text gap gap' rest : List Char} {name : String} {v : Json}
      {pairs : List (String × Json)} (hname : Named chars name)
      (h : Spells words digits depth text (.value v)) (hgap : Gap gap) (hgap' : Gap gap')
      (hrest : Spells words digits depth rest (.members pairs)) :
      Spells words digits depth (chars ++ (text ++ (gap ++ ',' :: (gap' ++ rest))))
        (.members ((name, v) :: pairs))

/-- A text in which a value stands between gaps, and nothing else. -/
def Spelled (words : Bool) (digits depth : Nat) (source : String) (v : Json) : Prop :=
  ∃ gap text gap', Gap gap ∧ Spells words digits depth text (.value v) ∧ Gap gap' ∧
    source.toList = gap ++ (text ++ gap')

/-- A JSON text, by RFC 8259, and the value in it. -/
def IsJson (source : String) (v : Json) : Prop := ∃ digits depth, Spelled false digits depth source v

/-- A body whose text is JSON. -/
def IsBody (body : Bytes) (v : Json) : Prop := ∃ source, bodyText? body = some source ∧ IsJson source v

variable {chars rest text gap : List Char} {negative words : Bool} {digits fuel depth need : Nat}
  {v : Json} {piece : Piece} {source : String}

/-! ## Gaps -/

theorem gap_nil : Gap [] := fun _ h => nomatch h

theorem exists_gap (chars : List Char) : ∃ gap, Gap gap ∧ chars = gap ++ skipGap chars := by
  refine ⟨chars.takeWhile isGap, ?_, List.takeWhile_append_dropWhile.symm⟩
  intro c hc
  exact List.all_eq_true.mp List.all_takeWhile c hc

theorem skipGap_append (hgap : Gap gap) : skipGap (gap ++ rest) = skipGap rest := by
  unfold skipGap
  induction gap with
  | nil => rfl
  | cons c gap ih =>
    have hc : isGap c = true := hgap c List.mem_cons_self
    rw [List.cons_append, List.dropWhile_cons_of_pos hc]
    exact ih fun d hd => hgap d (List.mem_cons_of_mem _ hd)

theorem skipGap_cons {c : Char} (h : isGap c = false) : skipGap (c :: rest) = c :: rest := by
  rw [skipGap, List.dropWhile_cons_of_neg (by rw [h]; exact Bool.false_ne_true)]

theorem skipGap_gap (hgap : Gap gap) : skipGap gap = [] := by
  rw [← List.append_nil gap, skipGap_append hgap]
  rfl

/-! ## Numbers that are read -/

theorem digits_takeWhile (h : chars.takeWhile isDigit ≠ []) : Digits (chars.takeWhile isDigit) :=
  ⟨h, fun c hc => List.all_eq_true.mp List.all_takeWhile c hc⟩

/-- The digits that are taken for the integer part. -/
def wholePart (chars : List Char) : List Char :=
  match chars with
  | '0' :: _ => ['0']
  | _ => chars.takeWhile isDigit

theorem wholePart_cases (chars : List Char) :
    (∃ rest, chars = '0' :: rest ∧ wholePart chars = ['0']) ∨
      (∀ rest, chars ≠ '0' :: rest) ∧ wholePart chars = chars.takeWhile isDigit := by
  unfold wholePart
  split
  · exact .inl ⟨_, rfl, rfl⟩
  · next hzero => exact .inr ⟨hzero, rfl⟩

theorem wholePart_append_drop (chars : List Char) :
    wholePart chars ++ chars.drop (wholePart chars).length = chars := by
  apply List.prefix_iff_eq_append.mp
  obtain ⟨rest, rfl, hwhole⟩ | ⟨-, hwhole⟩ := wholePart_cases chars
  · rw [hwhole]
    exact ⟨rest, rfl⟩
  · rw [hwhole]
    exact List.takeWhile_prefix _

theorem numeral_wholePart (h : wholePart chars ≠ []) : Numeral (wholePart chars) := by
  obtain ⟨rest, rfl, hwhole⟩ | ⟨hzero, hwhole⟩ := wholePart_cases chars
  · rw [hwhole]
    refine ⟨⟨List.cons_ne_nil _ _, ?_⟩, fun _ => rfl⟩
    intro c hc
    rw [List.mem_singleton.mp hc]
    rfl
  · rw [hwhole] at h ⊢
    refine ⟨digits_takeWhile h, ?_⟩
    intro hhead
    exfalso
    obtain ⟨rest, hrest⟩ := List.head?_eq_some_iff.mp hhead
    obtain ⟨more, hmore⟩ := List.takeWhile_prefix (l := chars) isDigit
    exact hzero (rest ++ more) (by rw [← hmore, hrest, List.cons_append])

/-- `unsigned` in terms of the integer part. -/
theorem unsigned_eq (negative : Bool) (chars : List Char) :
    unsigned negative chars =
      if (wholePart chars).isEmpty then .error .malformed
      else
        let (places, rest) := fraction (chars.drop (wholePart chars).length)
        match exponent? rest with
        | some (e, rest) =>
          .ok (float (Decimal.ofDecimal negative (digitsValue (wholePart chars ++ places))
            (e - places.length)), rest)
        | none =>
          if places.isEmpty then
            if digitLimit < (wholePart chars).length then .error .tooManyDigits
            else .ok (int (signed negative (wholePart chars)), rest)
          else
            .ok (float (Decimal.ofDecimal negative (digitsValue (wholePart chars ++ places))
              (-places.length)), rest) :=
  rfl

theorem fraction_sound (chars : List Char) :
    ∃ text, Fraction text (fraction chars).1 ∧ chars = text ++ (fraction chars).2 := by
  unfold fraction
  split
  · next c rest =>
    split
    · next hc =>
      have hdigits : Digits ((c :: rest).takeWhile isDigit) :=
        digits_takeWhile (by rw [List.takeWhile_cons_of_pos hc]; exact List.cons_ne_nil _ _)
      refine ⟨_, .places hdigits, ?_⟩
      rw [List.cons_append, List.takeWhile_append_dropWhile]
    · exact ⟨[], .absent, rfl⟩
  · exact ⟨[], .absent, rfl⟩

theorem exponentDigits?_sound {e : Int} (h : exponentDigits? negative chars = some (e, rest)) :
    ∃ power, Digits power ∧ chars = power ++ rest ∧ e = signed negative power := by
  unfold exponentDigits? at h
  dsimp only at h
  split at h
  · cases h
  · next hne =>
    cases h
    refine ⟨_, digits_takeWhile ?_, List.takeWhile_append_dropWhile.symm, rfl⟩
    intro hnil
    exact hne (List.isEmpty_iff.mpr hnil)

theorem exponent?_sound {e : Int} (h : exponent? chars = some (e, rest)) :
    ∃ power, Exponent power e ∧ chars = power ++ rest := by
  unfold exponent? at h
  split at h
  · next c more =>
    split at h
    · next hc =>
      split at h
      all_goals
        obtain ⟨power, hpower, rfl, rfl⟩ := exponentDigits?_sound h
      · exact ⟨_, .minus hc hpower, rfl⟩
      · exact ⟨_, .plus hc hpower, rfl⟩
      · exact ⟨_, .plain hc hpower, rfl⟩
    · cases h
  · cases h

theorem unsigned_sound (h : unsigned negative chars = .ok (v, rest)) :
    ∃ text, Number digitLimit (sign negative ++ text) v ∧ chars = text ++ rest := by
  rw [unsigned_eq] at h
  split at h
  · cases h
  next hwhole =>
  have hnumeral : Numeral (wholePart chars) :=
    numeral_wholePart fun hnil => hwhole (List.isEmpty_iff.mpr hnil)
  have hchars := wholePart_append_drop chars
  obtain ⟨point, hfraction, hafter⟩ := fraction_sound (chars.drop (wholePart chars).length)
  generalize fraction (chars.drop (wholePart chars).length) = read at h hfraction hafter
  obtain ⟨places, after⟩ := read
  dsimp only at h hfraction hafter
  rw [hafter] at hchars
  clear hafter
  generalize wholePart chars = whole at h hwhole hnumeral hchars
  split at h
  · next hexponent =>
    cases h
    obtain ⟨power, hpower, rfl⟩ := exponent?_sound hexponent
    exact ⟨_, .exponent hnumeral hfraction hpower, by rw [← hchars]; simp⟩
  split at h
  · next hplaces =>
    obtain rfl : places = [] := List.isEmpty_iff.mp hplaces
    cases hfraction with
    | places hdigits => exact absurd rfl hdigits.nonempty
    | absent =>
    split at h
    · cases h
    · next hlimit =>
      cases h
      exact ⟨_, .int hnumeral (Nat.not_lt.mp hlimit), hchars.symm⟩
  · next hplaces =>
    cases h
    cases hfraction with
    | absent => exact absurd rfl hplaces
    | places hdigits => exact ⟨_, .fraction hnumeral hdigits, by rw [← hchars]; simp⟩

theorem readNumber_sound (h : readNumber chars = .ok (v, rest)) :
    ∃ text, Spells true digitLimit depth text (.value v) ∧ chars = text ++ rest := by
  unfold readNumber at h
  split at h
  · cases h
    exact ⟨_, .word rfl .nan, rfl⟩
  · cases h
    exact ⟨_, .word rfl .infinity, rfl⟩
  · cases h
    exact ⟨_, .word rfl .minus, rfl⟩
  · obtain ⟨text, hnumber, rfl⟩ := unsigned_sound h
    exact ⟨_, .number hnumber, rfl⟩
  · obtain ⟨text, hnumber, rfl⟩ := unsigned_sound h
    exact ⟨_, .number hnumber, rfl⟩

/-! ## Texts that are read -/

theorem textUnits_sound {units : List Nat} (h : textUnits chars = .ok (units, rest)) :
    ∃ text, Letters text units ∧ chars = text ++ '"' :: rest := by
  fun_induction textUnits chars generalizing units rest with
  | case1 | case4 | case6 | case7 => cases h
  | case2 after =>
    cases h
    exact ⟨[], .nil, rfl⟩
  | case3 a b c d after n hquad ih =>
    obtain ⟨⟨more, _⟩, hmore, h⟩ := bind_eq_ok_iff.mp h
    cases h
    obtain ⟨text, htext, rfl⟩ := ih hmore
    exact ⟨_, .cons (.numbered hquad) htext, rfl⟩
  | case5 e after _ n hescaped ih =>
    obtain ⟨⟨more, _⟩, hmore, h⟩ := bind_eq_ok_iff.mp h
    cases h
    obtain ⟨text, htext, rfl⟩ := ih hmore
    exact ⟨_, .cons (.escaped hescaped) htext, rfl⟩
  | case8 c after hquote _ _ _ hplain =>
    rename_i ih
    obtain ⟨⟨more, _⟩, hmore, h⟩ := bind_eq_ok_iff.mp h
    cases h
    obtain ⟨text, htext, rfl⟩ := ih hmore
    simp only [Bool.or_eq_true, decide_eq_true_eq, not_or, Nat.not_lt] at hplain
    exact ⟨_, .cons (.plain hplain.1 hquote hplain.2) htext, rfl⟩

theorem readText_sound {s : String} (h : readText chars = .ok (s, rest)) :
    ∃ text, Quoted text s ∧ '"' :: chars = text ++ rest := by
  obtain ⟨⟨units, _⟩, hunits, h⟩ := bind_eq_ok_iff.mp h
  cases h
  obtain ⟨text, htext, rfl⟩ := textUnits_sound hunits
  exact ⟨_, .mk htext, by simp⟩

/-! ## Values that are read -/

/-- What the readers with this much fuel read is spelled. -/
structure SoundReaders (fuel : Nat) : Prop where
  value : ∀ depth chars v rest, readValue fuel depth chars = .ok (v, rest) →
    ∃ text, Spells true digitLimit depth text (.value v) ∧ chars = text ++ rest
  members : ∀ depth done chars v rest, readMembers fuel depth done chars = .ok (v, rest) →
    ∃ text pairs, Spells true digitLimit depth text (.members pairs) ∧ chars = text ++ rest ∧
      v = .object (gather done pairs)
  items : ∀ depth done chars v rest, readItems fuel depth done chars = .ok (v, rest) →
    ∃ text vs, Spells true digitLimit depth text (.items vs) ∧ chars = text ++ rest ∧
      v = .list (done.reverse ++ vs)

theorem sound_value (ih : SoundReaders fuel) (h : readValue (fuel + 1) depth chars = .ok (v, rest)) :
    ∃ text, Spells true digitLimit depth text (.value v) ∧ chars = text ++ rest := by
  unfold readValue at h
  split at h
  · obtain ⟨⟨s, _⟩, hs, h⟩ := bind_eq_ok_iff.mp h
    cases h
    obtain ⟨text, htext, hchars⟩ := readText_sound hs
    exact ⟨text, .text htext, hchars⟩
  · next after =>
    obtain ⟨gap, hgap, hafter⟩ := exists_gap after
    split at h
    · cases h
    split at h
    · next hclose =>
      cases h
      exact ⟨_, .emptyObject hgap, by rw [hafter, hclose]; simp⟩
    · obtain ⟨text, pairs, htext, hskip, rfl⟩ := ih.members _ _ _ _ _ h
      exact ⟨_, .object hgap htext, by rw [hafter, hskip]; simp⟩
  · next after =>
    obtain ⟨gap, hgap, hafter⟩ := exists_gap after
    split at h
    · cases h
    split at h
    · next hclose =>
      cases h
      exact ⟨_, .emptyList hgap, by rw [hafter, hclose]; simp⟩
    · obtain ⟨text, vs, htext, hskip, rfl⟩ := ih.items _ _ _ _ _ h
      exact ⟨_, .list hgap htext, by rw [hafter, hskip]; simp⟩
  · cases h
    exact ⟨_, .null, rfl⟩
  · cases h
    exact ⟨_, .yes, rfl⟩
  · cases h
    exact ⟨_, .no, rfl⟩
  · exact readNumber_sound h

theorem sound_members {done : List (String × Json)} (ih : SoundReaders fuel)
    (h : readMembers (fuel + 1) depth done chars = .ok (v, rest)) :
    ∃ text pairs, Spells true digitLimit depth text (.members pairs) ∧ chars = text ++ rest ∧
      v = .object (gather done pairs) := by
  unfold readMembers at h
  split at h
  · obtain ⟨⟨name, after⟩, hname, h⟩ := bind_eq_ok_iff.mp h
    obtain ⟨quoted, hquoted, hchars⟩ := readText_sound hname
    obtain ⟨gap₁, hgap₁, hafter⟩ := exists_gap after
    dsimp only at h
    split at h
    · next before hcolon =>
      obtain ⟨gap₂, hgap₂, hbefore⟩ := exists_gap before
      obtain ⟨⟨value, after⟩, hvalue, h⟩ := bind_eq_ok_iff.mp h
      obtain ⟨text, htext, hread⟩ := ih.value _ _ _ _ hvalue
      obtain ⟨gap₃, hgap₃, hend⟩ := exists_gap after
      have hnamed : Named (quoted ++ (gap₁ ++ ':' :: gap₂)) name := .mk hquoted hgap₁ hgap₂
      rw [hchars, hafter, hcolon, hbefore, hread, hend]
      dsimp only at h
      split at h
      · next hclose =>
        cases h
        exact ⟨_, _, .lastMember hnamed htext hgap₃, by rw [hclose]; simp, rfl⟩
      · next next hcomma =>
        obtain ⟨gap₄, hgap₄, hnext⟩ := exists_gap next
        obtain ⟨more, pairs, hmore, hskip, rfl⟩ := ih.members _ _ _ _ _ h
        exact ⟨_, _, .member hnamed htext hgap₃ hgap₄ hmore,
          by rw [hcomma, hnext, hskip]; simp, rfl⟩
      · cases h
    · cases h
  · cases h

theorem sound_items {done : List Json} (ih : SoundReaders fuel)
    (h : readItems (fuel + 1) depth done chars = .ok (v, rest)) :
    ∃ text vs, Spells true digitLimit depth text (.items vs) ∧ chars = text ++ rest ∧
      v = .list (done.reverse ++ vs) := by
  unfold readItems at h
  obtain ⟨⟨value, after⟩, hvalue, h⟩ := bind_eq_ok_iff.mp h
  obtain ⟨text, htext, hread⟩ := ih.value _ _ _ _ hvalue
  obtain ⟨gap, hgap, hafter⟩ := exists_gap after
  rw [hread, hafter]
  dsimp only at h
  split at h
  · next hclose =>
    cases h
    exact ⟨_, _, .lastItem htext hgap, by rw [hclose]; simp, by rw [List.reverse_cons]⟩
  · next next hcomma =>
    obtain ⟨gap', hgap', hnext⟩ := exists_gap next
    obtain ⟨more, vs, hmore, hskip, rfl⟩ := ih.items _ _ _ _ _ h
    refine ⟨_, _, .item htext hgap hgap' hmore, by rw [hcomma, hnext, hskip]; simp, ?_⟩
    rw [List.reverse_cons, List.append_assoc, List.singleton_append]
  · cases h

theorem soundReaders (fuel : Nat) : SoundReaders fuel := by
  induction fuel with
  | zero =>
    refine ⟨?_, ?_, ?_⟩
    · intro depth chars v rest h
      unfold readValue at h
      cases h
    · intro depth done chars v rest h
      unfold readMembers at h
      cases h
    · intro depth done chars v rest h
      unfold readItems at h
      cases h
  | succ fuel ih =>
    exact ⟨fun _ _ _ _ => sound_value ih, fun _ _ _ _ _ => sound_members ih,
      fun _ _ _ _ _ => sound_items ih⟩

/-- What is read is spelled. -/
theorem parse_sound (h : parse depth source = .ok v) : Spelled true digitLimit depth source v := by
  obtain ⟨⟨_, rest⟩, hread, h⟩ := bind_eq_ok_iff.mp h
  dsimp only at h
  split at h
  · next hempty =>
    cases h
    obtain ⟨text, htext, hskip⟩ := (soundReaders _).value _ _ _ _ hread
    obtain ⟨gap, hgap, hsource⟩ := exists_gap source.toList
    obtain ⟨gap', hgap', hrest⟩ := exists_gap rest
    rw [List.isEmpty_iff.mp hempty, List.append_nil] at hrest
    exact ⟨gap, text, gap', hgap, htext, hgap', by rw [hsource, hskip, hrest]⟩
  · cases h

end StorageAgent.Json
