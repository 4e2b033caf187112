import StorageAgent.Proofs.Json.Completeness
import StorageAgent.Proofs.Text.Utf8

/-!
# JSON in bodies

Which bodies are JSON, and which of them the reader takes for something else: a body is read if it
is JSON and within the limits of the reader, and brackets that are never closed are found too deep
before they are found malformed.

* `IsBody.parse_cases`: what is read of a body that is JSON.
* `isBody_of_parse`: what is read of a body is what it spells, if no word can be in it.
* `parseBody_brackets`: what is read of brackets without end, which are no JSON.
-/
namespace StorageAgent.Json

variable {chars text : List Char} {words : Bool} {digits fuel depth : Nat} {v : Json} {piece : Piece}
  {source : String} {body : Bytes}

/-! ## Bodies and their texts -/

theorem parseBody_of_text (h : bodyText? body = some source) (depth : Nat) :
    parseBody depth body = parse depth source := by
  rw [parseBody, h]

theorem IsBody.parse_cases (h : IsBody body v) (depth : Nat) :
    parseBody depth body = .ok v ∨ parseBody depth body = .error .tooManyDigits ∨
      parseBody depth body = .error .tooDeep := by
  obtain ⟨source, hsource, hjson⟩ := h
  rw [parseBody_of_text hsource]
  exact hjson.parse_cases depth

/-- Characters without the first letters of the words that the grammar does not have. -/
structure Wordless (chars : List Char) : Prop where
  nan : 'N' ∉ chars
  infinity : 'I' ∉ chars

theorem Wordless.sublist (h : Wordless chars) (htext : text.Sublist chars) : Wordless text where
  nan := fun hmem => h.nan (htext.mem hmem)
  infinity := fun hmem => h.infinity (htext.mem hmem)

theorem Spells.wordless (h : Spells true digits depth text piece) (hletters : Wordless text) :
    Spells false digits depth text piece := by
  induction h with
  | null => exact .null
  | yes => exact .yes
  | no => exact .no
  | text h => exact .text h
  | number h => exact .number h
  | word _ h =>
    cases h with
    | nan => exact absurd (by decide) hletters.nan
    | infinity => exact absurd (by decide) hletters.infinity
    | minus => exact absurd (by decide) hletters.infinity
  | emptyList hgap => exact .emptyList hgap
  | list hgap _ ih => exact .list hgap (ih (hletters.sublist (by simp)))
  | emptyObject hgap => exact .emptyObject hgap
  | object hgap _ ih => exact .object hgap (ih (hletters.sublist (by simp)))
  | lastItem _ hgap ih => exact .lastItem (ih (hletters.sublist (by simp))) hgap
  | @item _ text gap gap' rest _ _ _ hgap hgap' _ ih ihrest =>
    have hrest : rest <:+ text ++ (gap ++ ',' :: (gap' ++ rest)) :=
      ⟨text ++ (gap ++ ',' :: gap'), by simp⟩
    exact .item (ih (hletters.sublist (by simp))) hgap hgap' (ihrest (hletters.sublist hrest.sublist))
  | lastMember hname _ hgap ih =>
    exact .lastMember hname (ih (hletters.sublist (by simp))) hgap
  | @member _ chars text gap gap' rest _ _ _ hname _ hgap hgap' _ ih ihrest =>
    have hrest : rest <:+ chars ++ (text ++ (gap ++ ',' :: (gap' ++ rest))) :=
      ⟨chars ++ (text ++ (gap ++ ',' :: gap')), by simp⟩
    exact .member hname (ih (hletters.sublist (by simp))) hgap hgap'
      (ihrest (hletters.sublist hrest.sublist))

/-- What is read of a body is the value of its JSON, if no word can be in it. -/
theorem isBody_of_parse (h : bodyText? body = some source) (hletters : Wordless source.toList)
    (hread : parse depth source = .ok v) : IsBody body v := by
  obtain ⟨gap, text, gap', hgap, htext, hgap', hsource⟩ := parse_sound hread
  refine ⟨source, h, digitLimit, depth, gap, text, gap', hgap, htext.wordless ?_, hgap', hsource⟩
  rw [hsource] at hletters
  exact hletters.sublist (by simp)

/-! ## Brackets without end -/

/-- What has a bracket at its beginning has one at its end. -/
theorem Spells.closed (h : Spells words digits depth chars piece) :
    match piece with
    | .value _ => chars.head? = some '[' → ']' ∈ chars
    | .items _ => ']' ∈ chars
    | .members _ => True := by
  induction h with
  | null | yes | no | emptyObject | object => nofun
  | text h =>
    cases h
    nofun
  | number h =>
    intro hhead
    obtain ⟨c, more, hdigit | rfl, rfl⟩ := h.starts
    · exact absurd (Option.some.inj hhead) (ne_of_digit hdigit (by decide))
    · cases hhead
  | word _ h => cases h <;> nofun
  | emptyList => simp
  | list _ _ ih =>
    intro _
    exact List.mem_cons_of_mem _ (List.mem_append_right _ ih)
  | lastItem => simp
  | item _ _ _ _ _ ih => simp [ih]
  | lastMember | member => trivial

/-- Opening brackets and nothing else. -/
def brackets (n : Nat) : String := String.ofList (List.replicate n '[')

theorem not_spelled_brackets (n : Nat) : ¬ Spelled words digits depth (brackets n) v := by
  rintro ⟨gap, text, gap', -, htext, -, hsource⟩
  have hall : ∀ c ∈ text, c = '[' := by
    intro c hc
    have hmem : c ∈ (brackets n).toList := by
      rw [hsource]
      simp [hc]
    rw [brackets, String.toList_ofList] at hmem
    exact List.eq_of_mem_replicate hmem
  obtain ⟨c, more, -, rfl⟩ := htext.starts
  have hclosed : ']' ∈ c :: more := by
    apply htext.closed
    rw [List.head?_cons, hall c List.mem_cons_self]
  exact absurd (hall _ hclosed) (by decide)

theorem readValue_brackets {n : Nat} (hdepth : depth < n) (hfuel : 2 * n ≤ fuel) :
    readValue fuel depth (List.replicate n '[') = .error .tooDeep := by
  induction depth generalizing n fuel with
  | zero =>
    obtain ⟨n, rfl⟩ := Nat.exists_eq_add_one.mpr hdepth
    obtain ⟨fuel, rfl⟩ := Nat.exists_eq_add_one.mpr (show 0 < fuel by omega)
    exact readValue_closed fuel (.inl rfl) _
  | succ depth ih =>
    obtain ⟨n, rfl⟩ := Nat.exists_eq_add_one.mpr (Nat.zero_lt_of_lt hdepth)
    obtain ⟨fuel, rfl⟩ := Nat.exists_eq_add_of_le' (show 2 ≤ fuel by omega)
    obtain ⟨m, rfl⟩ := Nat.exists_eq_add_one.mpr (show 0 < n by omega)
    have hinner := @ih fuel (m + 1) (by omega) (by omega)
    rw [List.replicate_succ, readValue_bracket]
    rw [List.replicate_succ] at hinner ⊢
    rw [skipGap_cons (by decide)]
    show readItems (fuel + 1) depth [] _ = _
    unfold readItems
    rw [hinner]
    rfl

/-- Brackets that are opened and never closed are too deep before they are found malformed. -/
theorem parse_brackets {n : Nat} (h : depth < n) : parse depth (brackets n) = .error .tooDeep := by
  obtain ⟨m, rfl⟩ := Nat.exists_eq_add_one.mpr (Nat.zero_lt_of_lt h)
  have hskip : skipGap (brackets (m + 1)).toList = List.replicate (m + 1) '[' := by
    rw [brackets, String.toList_ofList, List.replicate_succ]
    exact skipGap_cons (by decide)
  unfold parse
  dsimp only
  rw [hskip, readValue_brackets h (by rw [brackets, String.toList_ofList, List.length_replicate]; omega)]
  rfl

theorem encode_brackets (n : Nat) : Text.Utf8.encode (brackets n) = List.replicate n 0x5B := by
  rw [Text.Utf8.encode, brackets, String.toList_ofList]
  induction n with
  | zero => rfl
  | succ n ih => rw [List.replicate_succ, List.flatMap_cons, ih, List.replicate_succ]; rfl

theorem detectEncoding_brackets (n : Nat) :
    detectEncoding (List.replicate n 0x5B) = (.utf8, List.replicate n 0x5B) := by
  match n with
  | 0 | 1 | 2 | 3 => rfl
  | _ + 4 => rfl

theorem withoutSurrogates_brackets (n : Nat) :
    withoutSurrogates (List.replicate n 0x5B) = List.replicate n 0x5B := by
  induction n with
  | zero => rfl
  | succ n ih =>
    match n with
    | 0 | 1 => rfl
    | n + 2 =>
      rw [List.replicate_succ, List.replicate_succ, List.replicate_succ] at *
      rw [withoutSurrogates, if_neg (by decide), ih]

theorem bodyText?_brackets (n : Nat) :
    bodyText? (Text.Utf8.encode (brackets n)) = some (brackets n) := by
  rw [bodyText?, encode_brackets, detectEncoding_brackets]
  dsimp only
  rw [withoutSurrogates_brackets, ← encode_brackets]
  exact Text.Utf8.decode?_eq_some_iff.mpr rfl

theorem not_isBody_brackets (n : Nat) : ¬ IsBody (Text.Utf8.encode (brackets n)) v := by
  rintro ⟨source, hsource, digits, depth, hspelled⟩
  rw [bodyText?_brackets, Option.some.injEq] at hsource
  subst hsource
  exact not_spelled_brackets n hspelled

theorem parseBody_brackets {n : Nat} (h : depth < n) :
    parseBody depth (Text.Utf8.encode (brackets n)) = .error .tooDeep := by
  rw [parseBody_of_text (bodyText?_brackets n), parse_brackets h]

end StorageAgent.Json
