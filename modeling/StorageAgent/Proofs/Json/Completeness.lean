import StorageAgent.Proofs.Json.Grammar

/-!
# Reading what is spelled

The reader takes every text of the grammar. What is left after a number must not go on with it, and
what stands before a value must be a gap. Only the two limits of the reader keep it from a text: an
integer of too many digits, and lists and objects nested too deeply.

* `Reads`: the value, or the fault of a limit that the text needs to pass.
* `Spells.read`, `parse_complete`: whatever is spelled is read.
* `parse_eq_ok_iff`: a text is read exactly if it is spelled within the limits.
* `IsJson.parse_cases`: JSON is never found malformed.
-/
namespace StorageAgent.Json

variable {chars rest text gap : List Char} {negative words : Bool} {digits fuel depth need : Nat}
  {v : Json} {piece : Piece} {source : String}

/-! ## Numbers that are spelled -/

/-- The digits before do not go on. -/
def NoDigit (rest : List Char) : Prop := ∀ c, rest.head? = some c → isDigit c = false

/-- A character that does not belong to the number before it. -/
structure Ends (c : Char) : Prop where
  digit : isDigit c = false
  point : c ≠ '.'
  exponent : ¬ (c = 'e' ∨ c = 'E')

/-- The number before does not go on. -/
def Ended (rest : List Char) : Prop := ∀ c, rest.head? = some c → Ends c

theorem Ended.noDigit (h : Ended rest) : NoDigit rest := fun c hc => (h c hc).digit

theorem noDigit_cons {c : Char} (h : isDigit c = false) : NoDigit (c :: rest) := by
  rintro _ ⟨⟩
  exact h

theorem ends_of_gap {c : Char} (h : isGap c = true) : Ends c := by
  unfold isGap at h
  simp only [Bool.or_eq_true, beq_iff_eq] at h
  obtain ((rfl | rfl) | rfl) | rfl := h <;> exact ⟨by decide, by decide, by decide⟩

theorem ended_gap (hgap : Gap gap) : Ended gap := by
  intro c hc
  exact ends_of_gap (hgap c (List.mem_of_head? hc))

theorem ended_append {c : Char} (hgap : Gap gap) (hc : Ends c) : Ended (gap ++ c :: rest) := by
  cases gap with
  | nil =>
    rintro _ ⟨⟩
    exact hc
  | cons d gap =>
    rintro _ ⟨⟩
    exact ends_of_gap (hgap d List.mem_cons_self)

theorem ne_of_digit {c d : Char} (hc : isDigit c = true) (hd : isDigit d = false) : c ≠ d := by
  intro h
  rw [h, hd] at hc
  cases hc

theorem takeWhile_digits (h : ∀ c ∈ chars, isDigit c = true) (hrest : NoDigit rest) :
    (chars ++ rest).takeWhile isDigit = chars ∧ (chars ++ rest).dropWhile isDigit = rest := by
  rw [List.takeWhile_append_of_pos h, List.dropWhile_append_of_pos h]
  cases rest with
  | nil => simp
  | cons c rest =>
    have hc : ¬ isDigit c = true := by
      rw [hrest c rfl]
      exact Bool.false_ne_true
    rw [List.takeWhile_cons_of_neg hc, List.dropWhile_cons_of_neg hc, List.append_nil]
    exact ⟨rfl, rfl⟩

theorem Numeral.wholePart_append {whole : List Char} (h : Numeral whole) (hrest : NoDigit rest) :
    wholePart (whole ++ rest) = whole := by
  obtain ⟨more, hmore, hwhole⟩ | ⟨-, hwhole⟩ := wholePart_cases (whole ++ rest)
  · obtain ⟨c, digits, rfl⟩ := List.exists_cons_of_ne_nil h.nonempty
    obtain ⟨rfl, -⟩ := List.cons.inj hmore
    rw [hwhole, h.zero rfl]
  · rw [hwhole, (takeWhile_digits h.digit hrest).1]

theorem Fraction.fraction_append {places : List Char} (h : Fraction chars places)
    (hrest : NoDigit rest) (hpoint : rest.head? ≠ some '.') :
    fraction (chars ++ rest) = (places, rest) := by
  cases h with
  | absent =>
    unfold fraction
    split
    · next heq =>
      simp only [List.nil_append] at heq
      rw [heq] at hpoint
      exact absurd rfl hpoint
    · rfl
  | places h =>
    obtain ⟨c, more, rfl⟩ := List.exists_cons_of_ne_nil h.nonempty
    have hc : isDigit c = true := h.digit c List.mem_cons_self
    obtain ⟨htake, hdrop⟩ := takeWhile_digits h.digit hrest
    simp only [List.cons_append, fraction, hc, if_true] at htake hdrop ⊢
    rw [htake, hdrop]

theorem Digits.exponentDigits?_append (h : Digits chars) (hrest : NoDigit rest) :
    exponentDigits? negative (chars ++ rest) = some (signed negative chars, rest) := by
  obtain ⟨htake, hdrop⟩ := takeWhile_digits h.digit hrest
  unfold exponentDigits?
  dsimp only
  rw [htake, hdrop, if_neg (by simpa using h.nonempty)]
  rfl

theorem Exponent.exponent?_append {e : Int} (h : Exponent chars e) (hrest : NoDigit rest) :
    exponent? (chars ++ rest) = some (e, rest) := by
  cases h with
  | @plain _ chars he h =>
    have hread : exponentDigits? false (chars ++ rest) = _ := h.exponentDigits?_append hrest
    obtain ⟨c, more, rfl⟩ := List.exists_cons_of_ne_nil h.nonempty
    have hc : isDigit c = true := h.digit c List.mem_cons_self
    refine (if_pos he).trans ?_
    rw [← hread, List.cons_append]
    split
    · next heq => exact absurd (List.cons.inj heq).1 (ne_of_digit hc (by decide))
    · next heq => exact absurd (List.cons.inj heq).1 (ne_of_digit hc (by decide))
    · rfl
  | plus he h => exact (if_pos he).trans (h.exponentDigits?_append hrest)
  | minus he h => exact (if_pos he).trans (h.exponentDigits?_append hrest)

theorem Ended.exponent?_eq (h : Ended rest) : exponent? rest = none := by
  unfold exponent?
  split
  · next c more => exact if_neg (h c rfl).exponent
  · rfl

/-- After the whole part of a number its fraction is read, and then its exponent. -/
theorem Numeral.unsigned_append {whole : List Char} (h : Numeral whole) (hrest : NoDigit rest) :
    unsigned negative (whole ++ rest) =
      let (places, rest) := fraction rest
      match exponent? rest with
      | some (e, rest) =>
        .ok (float (Decimal.ofDecimal negative (digitsValue (whole ++ places))
          (e - places.length)), rest)
      | none =>
        if places.isEmpty then
          if digitLimit < whole.length then .error .tooManyDigits
          else .ok (int (signed negative whole), rest)
        else
          .ok (float (Decimal.ofDecimal negative (digitsValue (whole ++ places))
            (-places.length)), rest) := by
  have hne : ¬ whole.isEmpty = true := fun hempty => h.nonempty (List.isEmpty_iff.mp hempty)
  rw [unsigned_eq, h.wholePart_append hrest, List.drop_left' rfl]
  exact if_neg hne

theorem readNumber_digit {c : Char} (h : isDigit c = true) (rest : List Char) :
    readNumber (c :: rest) = unsigned false (c :: rest) := by
  unfold readNumber
  split
  case h_5 => rfl
  all_goals next heq => exact absurd (List.cons.inj heq).1 (ne_of_digit h (by decide))

theorem readNumber_minus {c : Char} (h : isDigit c = true) (rest : List Char) :
    readNumber ('-' :: c :: rest) = unsigned true (c :: rest) := by
  unfold readNumber
  split
  · next heq => exact absurd (List.cons.inj heq).1 (by decide)
  · next heq => exact absurd (List.cons.inj heq).1 (by decide)
  · next heq => exact absurd (List.cons.inj (List.cons.inj heq).2).1 (ne_of_digit h (by decide))
  · next heq => rw [(List.cons.inj heq).2]
  · next hminus => exact absurd rfl (hminus _)

theorem Numeral.readNumber_append {whole : List Char} (h : Numeral whole) :
    readNumber (sign negative ++ (whole ++ rest)) = unsigned negative (whole ++ rest) := by
  obtain ⟨c, more, rfl⟩ := List.exists_cons_of_ne_nil h.nonempty
  have hc : isDigit c = true := h.digit c List.mem_cons_self
  cases negative with
  | false => exact readNumber_digit hc _
  | true => exact readNumber_minus hc _

/-- What is read where a text is spelled: what it spells, unless the reader stops at a limit that the
text needs to pass. -/
inductive Reads {α : Type} (digits depth need : Nat) (a : α) : Except Fault α → Prop where
  | read : Reads digits depth need a (.ok a)
  | tooManyDigits (h : digitLimit < digits) : Reads digits depth need a (.error .tooManyDigits)
  | tooDeep (h : depth < need) : Reads digits depth need a (.error .tooDeep)

theorem Reads.bind {α β : Type} {a : α} {b : β} {x : Except Fault α} {f : α → Except Fault β}
    (hx : Reads digits depth need a x) (hf : Reads digits depth need b (f a)) :
    Reads digits depth need b (x >>= f) := by
  cases hx with
  | read => exact hf
  | tooManyDigits h => exact .tooManyDigits h
  | tooDeep h => exact .tooDeep h

/-- Inside one more list or object there is one level less, both of what is allowed and of what is
needed. -/
theorem Reads.deeper {α : Type} {a : α} {x : Except Fault α} (h : Reads digits depth need a x) :
    Reads digits (depth + 1) (need + 1) a x := by
  cases h with
  | read => exact .read
  | tooManyDigits h => exact .tooManyDigits h
  | tooDeep h => exact .tooDeep (Nat.succ_lt_succ h)

theorem Exponent.begins {e : Int} (h : Exponent chars e) :
    ∃ c more, (c = 'e' ∨ c = 'E') ∧ chars = c :: more := by
  cases h with
  | plain he => exact ⟨_, _, he, rfl⟩
  | plus he => exact ⟨_, _, he, rfl⟩
  | minus he => exact ⟨_, _, he, rfl⟩

theorem reads_number (h : Number digits chars v) (hrest : Ended rest) :
    Reads digits depth need (v, rest) (readNumber (chars ++ rest)) := by
  have hnone : exponent? rest = none := hrest.exponent?_eq
  have hpoint : rest.head? ≠ some '.' := fun heq => (hrest _ heq).point rfl
  cases h with
  | @int _ whole h hdigits =>
    have hfraction : fraction rest = ([], rest) :=
      Fraction.absent.fraction_append hrest.noDigit hpoint
    rw [List.append_assoc, h.readNumber_append, h.unsigned_append hrest.noDigit, hfraction]
    simp only [hnone, List.isEmpty_nil, if_true]
    split
    · next hlimit => exact .tooManyDigits (Nat.lt_of_lt_of_le hlimit hdigits)
    · exact .read
  | @fraction _ whole places h hplaces =>
    have hfraction : fraction ('.' :: places ++ rest) = (places, rest) :=
      (Fraction.places hplaces).fraction_append hrest.noDigit hpoint
    have hdot : NoDigit ('.' :: places ++ rest) := noDigit_cons (by decide)
    have hne : ¬ places.isEmpty = true := by simpa using hplaces.nonempty
    rw [List.append_assoc, List.append_assoc, h.readNumber_append, h.unsigned_append hdot, hfraction]
    simp only [hnone, if_neg hne]
    exact .read
  | @exponent _ whole chars places power e h hchars hpower =>
    obtain ⟨c, more, hc, hbegins⟩ := hpower.begins
    have hletter : isDigit c = false ∧ c ≠ '.' := by
      obtain rfl | rfl := hc <;> decide
    have hfraction : fraction (chars ++ (power ++ rest)) = (places, power ++ rest) := by
      apply hchars.fraction_append
      · rw [hbegins]
        exact noDigit_cons hletter.1
      · rw [hbegins, List.cons_append, List.head?_cons]
        exact fun heq => hletter.2 (Option.some.inj heq)
    have hmore : NoDigit (chars ++ (power ++ rest)) := by
      cases hchars with
      | absent =>
        rw [hbegins]
        exact noDigit_cons hletter.1
      | places => exact noDigit_cons (by decide)
    rw [List.append_assoc, List.append_assoc, List.append_assoc, h.readNumber_append,
      h.unsigned_append hmore, hfraction]
    simp only [hpower.exponent?_append hrest.noDigit]
    exact .read

/-! ## Texts that are spelled -/

theorem Letter.textUnits_append {n : Nat} (h : Letter chars n) (rest : List Char) :
    textUnits (chars ++ rest) = do
      let (units, rest) ← textUnits rest
      return (n :: units, rest) := by
  cases h with
  | @plain c hlow hquote hescape =>
    have hlegal : ¬ (decide (c.toNat < 0x20) || decide (c = '\\')) = true := by
      simp only [Bool.or_eq_true, decide_eq_true_eq, not_or, Nat.not_lt]
      exact ⟨hlow, hescape⟩
    show textUnits (c :: rest) = _
    rw [textUnits]
    · rw [if_neg hlegal]
    · exact hquote
    · intro _ _ _ _ _ heq
      exact absurd heq hescape
    · intro _ _ heq
      exact absurd heq hescape
  | @escaped e n h =>
    show textUnits ('\\' :: e :: rest) = _
    rw [textUnits, h]
    intro _ _ _ _ _ heq
    rw [heq] at h
    cases h
  | @numbered a b c d n h =>
    show textUnits ('\\' :: 'u' :: a :: b :: c :: d :: rest) = _
    rw [textUnits, h]

theorem Letters.textUnits_append {units : List Nat} (h : Letters chars units) (rest : List Char) :
    textUnits (chars ++ '"' :: rest) = .ok (units, rest) := by
  induction h with
  | nil => rfl
  | cons h _ ih =>
    rw [List.append_assoc, h.textUnits_append, ih]
    rfl

theorem Quoted.readText_append {s : String} (h : Quoted chars s) (rest : List Char) :
    ∃ after, chars ++ rest = '"' :: after ∧ readText after = .ok (s, rest) := by
  cases h with
  | @mk chars units h =>
    refine ⟨chars ++ '"' :: rest, by simp, ?_⟩
    rw [readText, h.textUnits_append]
    rfl

/-! ## Values that are spelled -/

/-- A character that a value may begin with. -/
structure Starts (c : Char) : Prop where
  gap : isGap c = false
  bracket : c ≠ ']'
  brace : c ≠ '\x7d'

theorem starts_of_digit {c : Char} (h : isDigit c = true) : Starts c where
  gap := by
    cases hgap : isGap c with
    | false => rfl
    | true =>
      rw [(ends_of_gap hgap).digit] at h
      cases h
  bracket := ne_of_digit h (by decide)
  brace := ne_of_digit h (by decide)

theorem Number.starts (h : Number digits chars v) :
    ∃ c more, (isDigit c = true ∨ c = '-') ∧ chars = c :: more := by
  have hwhole : ∀ {negative : Bool} {whole : List Char} (more : List Char), Numeral whole →
      ∃ c rest, (isDigit c = true ∨ c = '-') ∧ sign negative ++ (whole ++ more) = c :: rest := by
    intro negative whole more h
    cases negative with
    | true => exact ⟨'-', _, .inr rfl, rfl⟩
    | false =>
      obtain ⟨c, rest, rfl⟩ := List.exists_cons_of_ne_nil h.nonempty
      exact ⟨c, _, .inl (h.digit c List.mem_cons_self), rfl⟩
  cases h with
  | int h => simpa using hwhole [] h
  | fraction h => exact hwhole _ h
  | exponent h => exact hwhole _ h

theorem Spells.starts (h : Spells words digits depth text piece) :
    ∃ c more, Starts c ∧ text = c :: more := by
  have hplain : ∀ {c : Char} (more : List Char), isGap c = false → c ≠ ']' → c ≠ '\x7d' →
      ∃ d rest, Starts d ∧ c :: more = d :: rest :=
    fun {c} more hgap hbracket hbrace => ⟨c, more, ⟨hgap, hbracket, hbrace⟩, rfl⟩
  have hquoted : ∀ {chars : List Char} {s : String} (more : List Char), Quoted chars s →
      ∃ c rest, Starts c ∧ chars ++ more = c :: rest := by
    rintro _ _ more ⟨-⟩
    exact hplain _ (by decide) (by decide) (by decide)
  induction h with
  | null | yes | no => exact hplain _ (by decide) (by decide) (by decide)
  | text h => simpa using hquoted [] h
  | number h =>
    obtain ⟨c, more, hdigit | rfl, rfl⟩ := h.starts
    · exact ⟨c, more, starts_of_digit hdigit, rfl⟩
    · exact hplain _ (by decide) (by decide) (by decide)
  | word hwords h => cases h <;> exact hplain _ (by decide) (by decide) (by decide)
  | emptyList | list | emptyObject | object => exact hplain _ (by decide) (by decide) (by decide)
  | lastItem h hgap ih | item h hgap hgap' hrest ih =>
    obtain ⟨c, more, hc, rfl⟩ := ih
    exact ⟨c, _, hc, rfl⟩
  | lastMember hname | member hname =>
    obtain ⟨h, hgap, hgap'⟩ := hname
    rw [List.append_assoc]
    exact hquoted _ h

theorem Spells.skipGap_append (h : Spells words digits depth text piece) (hgap : Gap gap)
    (rest : List Char) : skipGap (gap ++ (text ++ rest)) = text ++ rest := by
  obtain ⟨c, more, hc, rfl⟩ := h.starts
  rw [Json.skipGap_append hgap]
  exact skipGap_cons hc.gap

/-- What the readers make of a piece of a text, whatever follows. -/
def Piece.Read (digits need : Nat) (text : List Char) : Piece → Prop
  | .value v => ∀ fuel depth rest, 2 * text.length ≤ fuel + 1 → Ended rest →
      Reads digits depth need (v, rest) (readValue (fuel + 1) depth (text ++ rest))
  | .items vs => ∀ fuel depth done rest, 2 * text.length ≤ fuel + 1 →
      Reads digits depth need (.list (done.reverse ++ vs), rest)
        (readItems (fuel + 1) depth done (text ++ rest))
  | .members pairs => ∀ fuel depth done rest, 2 * text.length ≤ fuel + 1 →
      Reads digits depth need (.object (gather done pairs), rest)
        (readMembers (fuel + 1) depth done (text ++ rest))

/-- A value that begins with no bracket, brace, quote or letter of a word is a number. -/
theorem readValue_number {c : Char} (h : c ≠ '"' ∧ c ≠ '\x7b' ∧ c ≠ '[' ∧ c ≠ 'n' ∧ c ≠ 't' ∧ c ≠ 'f')
    (rest : List Char) : readValue (fuel + 1) depth (c :: rest) = readNumber (c :: rest) := by
  obtain ⟨hquote, hbrace, hbracket, hn, ht, hf⟩ := h
  unfold readValue
  split
  case h_7 => rfl
  all_goals
    next heq => exact absurd (List.cons.inj heq).1 (by assumption)

theorem Number.reads_value (h : Number digits chars v) (hrest : Ended rest) :
    Reads digits depth need (v, rest) (readValue (fuel + 1) depth (chars ++ rest)) := by
  have hread : readValue (fuel + 1) depth (chars ++ rest) = readNumber (chars ++ rest) := by
    obtain ⟨c, more, hdigit | rfl, rfl⟩ := h.starts
    · exact readValue_number ⟨ne_of_digit hdigit (by decide), ne_of_digit hdigit (by decide),
        ne_of_digit hdigit (by decide), ne_of_digit hdigit (by decide),
        ne_of_digit hdigit (by decide), ne_of_digit hdigit (by decide)⟩ _
    · exact readValue_number (by decide) _
  rw [hread]
  exact reads_number h hrest

theorem Word.readValue_append {x : Float} (h : Word chars x) (rest : List Char) :
    readValue (fuel + 1) depth (chars ++ rest) = .ok (.float x, rest) := by
  cases h with
  | nan => exact readValue_number (by decide) _
  | infinity => exact readValue_number (by decide) _
  | minus => exact readValue_number (by decide) _

theorem readValue_bracket (fuel depth : Nat) (rest : List Char) :
    readValue (fuel + 1) (depth + 1) ('[' :: rest) =
      match skipGap rest with
      | ']' :: rest => .ok (.list [], rest)
      | rest => readItems fuel depth [] rest := by
  unfold readValue
  rfl

theorem readValue_brace (fuel depth : Nat) (rest : List Char) :
    readValue (fuel + 1) (depth + 1) ('\x7b' :: rest) =
      match skipGap rest with
      | '\x7d' :: rest => .ok (.object [], rest)
      | rest => readMembers fuel depth [] rest := by
  unfold readValue
  rfl

theorem readValue_closed (fuel : Nat) {c : Char} (hc : c = '[' ∨ c = '\x7b') (rest : List Char) :
    readValue (fuel + 1) 0 (c :: rest) = .error .tooDeep := by
  obtain rfl | rfl := hc <;> unfold readValue <;> rfl

/-- A list or an object takes one level of what is allowed, and there has to be one. -/
theorem reads_opened {c : Char} (hc : c = '[' ∨ c = '\x7b') {a : Json × List Char}
    (h : ∀ depth, Reads digits (depth + 1) (need + 1) a
      (readValue (fuel + 1) (depth + 1) (c :: rest))) :
    Reads digits depth (need + 1) a (readValue (fuel + 1) depth (c :: rest)) := by
  cases depth with
  | zero =>
    rw [readValue_closed fuel hc]
    exact .tooDeep (Nat.succ_pos need)
  | succ depth => exact h depth

theorem reads_emptyList (hgap : Gap gap) :
    Reads digits depth (need + 1) (.list [], rest)
      (readValue (fuel + 1) depth ('[' :: (gap ++ ']' :: rest))) := by
  refine reads_opened (.inl rfl) fun depth => ?_
  rw [readValue_bracket, skipGap_append hgap, skipGap_cons (by decide)]
  exact .read

theorem reads_emptyObject (hgap : Gap gap) :
    Reads digits depth (need + 1) (.object [], rest)
      (readValue (fuel + 1) depth ('\x7b' :: (gap ++ '\x7d' :: rest))) := by
  refine reads_opened (.inr rfl) fun depth => ?_
  rw [readValue_brace, skipGap_append hgap, skipGap_cons (by decide)]
  exact .read

theorem reads_list {vs : List Json} (hgap : Gap gap) (h : Spells words digits need text (.items vs))
    (ih : Piece.Read digits need text (.items vs)) (hfuel : 2 * text.length ≤ fuel + 1) :
    Reads digits depth (need + 1) (.list vs, rest)
      (readValue (fuel + 2) depth ('[' :: (gap ++ (text ++ rest)))) := by
  refine reads_opened (.inl rfl) fun depth => ?_
  rw [readValue_bracket, h.skipGap_append hgap]
  split
  · next heq =>
    obtain ⟨c, more, hc, rfl⟩ := h.starts
    exact absurd (List.cons.inj heq).1 hc.bracket
  · exact (ih fuel depth [] rest hfuel).deeper

theorem reads_object {pairs : List (String × Json)} (hgap : Gap gap)
    (h : Spells words digits need text (.members pairs))
    (ih : Piece.Read digits need text (.members pairs)) (hfuel : 2 * text.length ≤ fuel + 1) :
    Reads digits depth (need + 1) (.object (gather [] pairs), rest)
      (readValue (fuel + 2) depth ('\x7b' :: (gap ++ (text ++ rest)))) := by
  refine reads_opened (.inr rfl) fun depth => ?_
  rw [readValue_brace, h.skipGap_append hgap]
  split
  · next heq =>
    obtain ⟨c, more, hc, rfl⟩ := h.starts
    exact absurd (List.cons.inj heq).1 hc.brace
  · exact (ih fuel depth [] rest hfuel).deeper

/-! ## Items and members that are spelled -/

/-- After an item comes the closing bracket, or a comma and more. -/
theorem reads_item {done : List Json} {c : Char} {w : Json} {after : List Char}
    (ih : Piece.Read digits need text (.value v)) (hgap : Gap gap) (hc : Ends c)
    (hskip : isGap c = false) (hfuel : 2 * text.length ≤ fuel + 1)
    (hread : Reads digits depth need (w, rest)
      (match c :: after with
        | ']' :: rest => .ok (.list (v :: done).reverse, rest)
        | ',' :: rest => readItems (fuel + 1) depth (v :: done) (skipGap rest)
        | _ => .error .malformed)) :
    Reads digits depth need (w, rest)
      (readItems (fuel + 2) depth done (text ++ (gap ++ c :: after))) := by
  unfold readItems
  refine (ih fuel depth (gap ++ c :: after) hfuel (ended_append hgap hc)).bind ?_
  dsimp only
  rw [skipGap_append hgap, skipGap_cons hskip]
  exact hread

theorem Named.readMembers_append {name : String} {done : List (String × Json)}
    (hname : Named chars name) (h : Spells words digits need text piece) :
    readMembers (fuel + 1) depth done (chars ++ (text ++ rest)) = (do
      let (value, rest) ← readValue fuel depth (text ++ rest)
      let done := setMember name value done
      match skipGap rest with
      | '\x7d' :: rest => return (.object done, rest)
      | ',' :: rest => readMembers fuel depth done (skipGap rest)
      | _ => .error .malformed) := by
  obtain @⟨chars, gap, gap', name, hquoted, hgap, hgap'⟩ := hname
  obtain ⟨after, hchars, htext⟩ := hquoted.readText_append (gap ++ ':' :: (gap' ++ (text ++ rest)))
  rw [List.append_assoc, List.append_assoc, List.cons_append, hchars, readMembers]
  rw [htext]
  dsimp only [bind, Except.bind]
  rw [skipGap_append hgap, skipGap_cons (by decide)]
  show Except.bind (readValue fuel depth (skipGap (gap' ++ (text ++ rest)))) _ = _
  rw [h.skipGap_append hgap']
  rfl

/-- After a member comes the closing brace, or a comma and more. -/
theorem reads_member {done : List (String × Json)} {name : String} {c : Char} {w : Json}
    {after : List Char} (hname : Named chars name) (h : Spells words digits need text (.value v))
    (ih : Piece.Read digits need text (.value v)) (hgap : Gap gap) (hc : Ends c)
    (hskip : isGap c = false) (hfuel : 2 * text.length ≤ fuel + 1)
    (hread : Reads digits depth need (w, rest)
      (match c :: after with
        | '\x7d' :: rest => .ok (.object (setMember name v done), rest)
        | ',' :: rest => readMembers (fuel + 1) depth (setMember name v done) (skipGap rest)
        | _ => .error .malformed)) :
    Reads digits depth need (w, rest)
      (readMembers (fuel + 2) depth done (chars ++ (text ++ (gap ++ c :: after)))) := by
  rw [hname.readMembers_append h]
  refine (ih fuel depth (gap ++ c :: after) hfuel (ended_append hgap hc)).bind ?_
  dsimp only
  rw [skipGap_append hgap, skipGap_cons hskip]
  exact hread

/-- Whatever is spelled is read. A list, an object, an item and a member each take one call for
themselves and a character besides those of the value in them, so twice the length is fuel enough. -/
theorem Spells.read (h : Spells words digits need text piece) : piece.Read digits need text := by
  induction h with
  | null | yes | no =>
    intro fuel depth rest _ _
    unfold readValue
    exact .read
  | text h =>
    intro fuel depth rest _ _
    obtain ⟨after, hchars, htext⟩ := h.readText_append rest
    rw [hchars, readValue, htext]
    exact .read
  | number h =>
    intro fuel depth rest _ hrest
    exact h.reads_value hrest
  | word _ h =>
    intro fuel depth rest _ _
    rw [h.readValue_append]
    exact .read
  | emptyList hgap =>
    intro fuel depth rest _ _
    rw [List.cons_append, List.append_assoc]
    exact reads_emptyList hgap
  | emptyObject hgap =>
    intro fuel depth rest _ _
    rw [List.cons_append, List.append_assoc]
    exact reads_emptyObject hgap
  | list hgap h ih =>
    intro fuel depth rest hfuel _
    simp only [List.length_cons, List.length_append] at hfuel
    obtain ⟨fuel, rfl⟩ := Nat.exists_eq_add_one.mpr (show 0 < fuel by omega)
    rw [List.cons_append, List.append_assoc]
    exact reads_list hgap h ih (by omega)
  | object hgap h ih =>
    intro fuel depth rest hfuel _
    simp only [List.length_cons, List.length_append] at hfuel
    obtain ⟨fuel, rfl⟩ := Nat.exists_eq_add_one.mpr (show 0 < fuel by omega)
    rw [List.cons_append, List.append_assoc]
    exact reads_object hgap h ih (by omega)
  | lastItem h hgap ih =>
    intro fuel depth done rest hfuel
    simp only [List.length_append, List.length_singleton] at hfuel
    obtain ⟨fuel, rfl⟩ := Nat.exists_eq_add_one.mpr (show 0 < fuel by omega)
    rw [List.append_assoc, List.append_assoc, List.singleton_append]
    refine reads_item ih hgap ⟨by decide, by decide, by decide⟩ (by decide) (by omega) ?_
    rw [← List.reverse_cons]
    exact .read
  | @item _ text gap gap' more v vs h hgap hgap' hrest ih ihrest =>
    intro fuel depth done rest hfuel
    simp only [List.length_cons, List.length_append] at hfuel
    obtain ⟨fuel, rfl⟩ := Nat.exists_eq_add_one.mpr (show 0 < fuel by omega)
    rw [List.append_assoc, List.append_assoc, List.cons_append, List.append_assoc]
    refine reads_item ih hgap ⟨by decide, by decide, by decide⟩ (by decide) (by omega) ?_
    have hread := ihrest fuel depth (v :: done) rest (by omega)
    rw [List.reverse_cons, List.append_assoc, List.singleton_append,
      ← hrest.skipGap_append hgap' rest] at hread
    exact hread
  | lastMember hname h hgap ih =>
    intro fuel depth done rest hfuel
    simp only [List.length_append, List.length_singleton] at hfuel
    obtain ⟨fuel, rfl⟩ := Nat.exists_eq_add_one.mpr (show 0 < fuel by omega)
    rw [List.append_assoc, List.append_assoc, List.append_assoc, List.singleton_append]
    refine reads_member hname h ih hgap ⟨by decide, by decide, by decide⟩ (by decide) (by omega) ?_
    exact .read
  | @member _ chars text gap gap' more name v pairs hname h hgap hgap' hrest ih ihrest =>
    intro fuel depth done rest hfuel
    simp only [List.length_cons, List.length_append] at hfuel
    obtain ⟨fuel, rfl⟩ := Nat.exists_eq_add_one.mpr (show 0 < fuel by omega)
    rw [List.append_assoc, List.append_assoc, List.append_assoc, List.cons_append, List.append_assoc]
    refine reads_member hname h ih hgap ⟨by decide, by decide, by decide⟩ (by decide) (by omega) ?_
    have hread := ihrest fuel depth (setMember name v done) rest (by omega)
    rw [← hrest.skipGap_append hgap' rest] at hread
    exact hread

/-- What is spelled is read, unless the reader stops at a limit that the text needs to pass. -/
theorem parse_complete (h : Spelled words digits need source v) :
    Reads digits depth need v (parse depth source) := by
  obtain ⟨gap, text, gap', hgap, htext, hgap', hsource⟩ := h
  have hread := htext.read (2 * source.toList.length + 1) depth gap'
    (by rw [hsource]; simp only [List.length_append]; omega) (ended_gap hgap')
  have hskip : skipGap source.toList = text ++ gap' := by
    rw [hsource]
    exact htext.skipGap_append hgap gap'
  unfold parse
  dsimp only
  rw [hskip]
  refine hread.bind ?_
  dsimp only
  rw [skipGap_gap hgap']
  exact .read

/-- A text is read exactly if it is spelled within the limits of the reader. -/
theorem parse_eq_ok_iff : parse depth source = .ok v ↔ Spelled true digitLimit depth source v := by
  constructor
  · exact parse_sound
  · intro h
    have hread : Reads digitLimit depth depth v (parse depth source) := parse_complete h
    generalize parse depth source = r at hread
    cases hread with
    | read => rfl
    | tooManyDigits h => exact absurd h (Nat.lt_irrefl _)
    | tooDeep h => exact absurd h (Nat.lt_irrefl _)

/-- JSON is never found malformed. -/
theorem IsJson.parse_cases (h : IsJson source v) (depth : Nat) :
    parse depth source = .ok v ∨ parse depth source = .error .tooManyDigits ∨
      parse depth source = .error .tooDeep := by
  obtain ⟨digits, need, h⟩ := h
  have hread : Reads digits depth need v (parse depth source) := parse_complete h
  generalize parse depth source = r at hread
  cases hread with
  | read => exact .inl rfl
  | tooManyDigits => exact .inr (.inl rfl)
  | tooDeep => exact .inr (.inr rfl)

end StorageAgent.Json
