import StorageAgent.Proofs.Json.Completeness

/-!
# Arrays of plain items

The text of an array whose items are integers and truth values: gaps around the items, commas
between them, and no zero in front of the other digits of an integer.

* `Scalar`, `Items`, `IsArray`: these texts.
* `IsArray.spelled`, `isArray_of_spelled`: they are what the grammar has for such arrays.
* `parse_list_iff`: a text is read as an array of plain items exactly if it is the text of one.
-/
namespace StorageAgent.Json

variable {digits text : List Char} {words : Bool} {depth : Nat} {n : Int} {v : Json} {vs : List Json}
  {source : String}

/-! ## The texts -/

/-- The text of an integer or of a truth value. -/
inductive Scalar : List Char → Json → Prop where
  | plain {digits : List Char} (h : Numeral digits) : Scalar digits (.int (signed false digits))
  | negative {digits : List Char} (h : Numeral digits) :
      Scalar ('-' :: digits) (.int (signed true digits))
  | yes : Scalar ['t', 'r', 'u', 'e'] (.bool true)
  | no : Scalar ['f', 'a', 'l', 's', 'e'] (.bool false)

/-- The text of at least one item, with the closing bracket. -/
inductive Items : List Char → List Json → Prop where
  | last {text gap : List Char} {v : Json} (h : Scalar text v) (hgap : Gap gap) :
      Items (text ++ (gap ++ [']'])) [v]
  | more {text gap gap' rest : List Char} {v : Json} {vs : List Json} (h : Scalar text v)
      (hgap : Gap gap) (hgap' : Gap gap') (hrest : Items rest vs) :
      Items (text ++ (gap ++ ',' :: (gap' ++ rest))) (v :: vs)

/-- The text of an array, from its opening bracket on. -/
inductive ArrayText : List Char → List Json → Prop where
  | empty {gap : List Char} (hgap : Gap gap) : ArrayText ('[' :: (gap ++ [']'])) []
  | items {gap text : List Char} {vs : List Json} (hgap : Gap gap) (h : Items text vs) :
      ArrayText ('[' :: (gap ++ text)) vs

/-- A text that holds an array of these items and nothing else. -/
def IsArray (source : String) (vs : List Json) : Prop :=
  ∃ gap array gap', Gap gap ∧ ArrayText array vs ∧ Gap gap' ∧ source.toList = gap ++ (array ++ gap')

/-- A truth value, or an integer that has no more digits than may be read. -/
inductive Plain : Json → Prop where
  | bool (b : Bool) : Plain (.bool b)
  | int {n : Int} (h : n.natAbs < 10 ^ digitLimit) : Plain (.int n)

/-! ## Integers -/

theorem mul_pow_le_foldl (digits : List Char) (n : Nat) :
    n * 10 ^ digits.length ≤ digits.foldl (fun n c => 10 * n + (c.toNat - 48)) n := by
  induction digits generalizing n with
  | nil => simp
  | cons c digits ih =>
    calc n * 10 ^ (digits.length + 1) = 10 * n * 10 ^ digits.length := by
          rw [Nat.pow_succ', ← Nat.mul_assoc, Nat.mul_comm n 10]
      _ ≤ (10 * n + (c.toNat - 48)) * 10 ^ digits.length :=
          Nat.mul_le_mul_right _ (Nat.le_add_right ..)
      _ ≤ _ := ih _

/-- Without zeros in front, a small number has few digits. -/
theorem Numeral.length_le {limit : Nat} (h : Numeral digits) (hlimit : 0 < limit)
    (hvalue : digitsValue digits < 10 ^ limit) : digits.length ≤ limit := by
  obtain ⟨c, digits, rfl⟩ := List.exists_cons_of_ne_nil h.nonempty
  by_cases hc : c = '0'
  · rw [h.zero (by rw [hc, List.head?_cons])]
    exact hlimit
  · have hdigit : 48 ≤ c.toNat ∧ c.toNat ≤ 57 := of_decide_eq_true (h.digit c List.mem_cons_self)
    have hpos : 1 ≤ 10 * 0 + (c.toNat - 48) := by
      have hne : c.toNat ≠ 48 := fun heq => hc (Char.toNat_inj.mp heq)
      omega
    have hle : 10 ^ digits.length < 10 ^ limit :=
      calc 10 ^ digits.length = 1 * 10 ^ digits.length := (Nat.one_mul _).symm
        _ ≤ (10 * 0 + (c.toNat - 48)) * 10 ^ digits.length := Nat.mul_le_mul_right _ hpos
        _ ≤ digitsValue (c :: digits) := mul_pow_le_foldl digits _
        _ < 10 ^ limit := hvalue
    exact (Nat.pow_lt_pow_iff_right (by decide)).mp hle

/-! ## The grammar of these texts -/

theorem Scalar.spells (h : Scalar text v) (hv : Plain v) :
    Spells words digitLimit depth text (.value v) := by
  cases h with
  | plain h =>
    cases hv with
    | int hlimit => exact .number (@Number.int _ false _ h (h.length_le (by decide) hlimit))
  | negative h =>
    cases hv with
    | int hlimit =>
      rw [signed, if_pos rfl, Int.natAbs_neg, Int.natAbs_natCast] at hlimit
      exact .number (@Number.int _ true _ h (h.length_le (by decide) hlimit))
  | yes => exact .yes
  | no => exact .no

theorem scalar_of_spells (h : Spells words digitLimit depth text (.value v)) (hv : Plain v) :
    Scalar text v := by
  cases h with
  | yes => exact .yes
  | no => exact .no
  | number h =>
    cases h with
    | @int negative _ h =>
      cases negative with
      | false => exact .plain h
      | true => exact .negative h
    | fraction => cases hv
    | exponent => cases hv
  | _ => cases hv

theorem Items.spells (h : Items text vs) (hvs : ∀ v ∈ vs, Plain v) :
    Spells words digitLimit depth text (.items vs) := by
  induction h with
  | last h hgap => exact .lastItem (h.spells (hvs _ List.mem_cons_self)) hgap
  | more h hgap hgap' _ ih =>
    refine .item (h.spells (hvs _ List.mem_cons_self)) hgap hgap' (ih ?_)
    intro w hw
    exact hvs w (List.mem_cons_of_mem _ hw)

theorem items_of_spells (h : Spells words digitLimit depth text (.items vs))
    (hvs : ∀ v ∈ vs, Plain v) : Items text vs := by
  generalize hpart : Piece.items vs = piece at h
  induction h generalizing vs with
  | lastItem h hgap =>
    cases hpart
    exact .last (scalar_of_spells h (hvs _ List.mem_cons_self)) hgap
  | item h hgap hgap' _ _ ih =>
    cases hpart
    refine .more (scalar_of_spells h (hvs _ List.mem_cons_self)) hgap hgap' (ih ?_ rfl)
    intro w hw
    exact hvs w (List.mem_cons_of_mem _ hw)
  | _ => cases hpart

/-- The text of an array is in the grammar, and one level deep. -/
theorem IsArray.spelled (h : IsArray source vs) (hvs : ∀ v ∈ vs, Plain v) :
    Spelled words digitLimit (depth + 1) source (.list vs) := by
  obtain ⟨gap, array, gap', hgap, harray, hgap', hsource⟩ := h
  refine ⟨gap, array, gap', hgap, ?_, hgap', hsource⟩
  cases harray with
  | empty hgap => exact .emptyList hgap
  | items hgap h => exact .list hgap (h.spells hvs)

theorem isArray_of_spelled (h : Spelled words digitLimit depth source (.list vs))
    (hvs : ∀ v ∈ vs, Plain v) : IsArray source vs := by
  obtain ⟨gap, array, gap', hgap, harray, hgap', hsource⟩ := h
  refine ⟨gap, array, gap', hgap, ?_, hgap', hsource⟩
  cases harray with
  | emptyList hgap => exact .empty hgap
  | list hgap h => exact .items hgap (items_of_spells h hvs)
  | number h => cases h

/-- A text is read as an array of plain items exactly if it is the text of one. -/
theorem parse_list_iff (hvs : ∀ v ∈ vs, Plain v) :
    parse (depth + 1) source = .ok (.list vs) ↔ IsArray source vs := by
  rw [parse_eq_ok_iff]
  constructor
  · intro h
    exact isArray_of_spelled h hvs
  · intro h
    exact h.spelled hvs

/-- The text of an array is read, unless no list can be opened at all. -/
theorem IsArray.parse_cases (h : IsArray source vs) (hvs : ∀ v ∈ vs, Plain v) (depth : Nat) :
    parse depth source = .ok (.list vs) ∨ parse depth source = .error .tooDeep := by
  cases depth with
  | succ depth => exact .inl ((parse_list_iff hvs).mpr h)
  | zero =>
    have hspelled : Spelled false digitLimit 1 source (.list vs) := h.spelled hvs
    have hread : Reads digitLimit 0 1 (.list vs) (parse 0 source) := parse_complete hspelled
    generalize parse 0 source = r at hread
    cases hread with
    | read => exact .inl rfl
    | tooManyDigits h => exact absurd h (Nat.lt_irrefl _)
    | tooDeep => exact .inr rfl

/-! ## Truth values -/

/-- The word for a truth value. -/
def truthWord (b : Bool) : List Char :=
  if b then ['t', 'r', 'u', 'e'] else ['f', 'a', 'l', 's', 'e']

theorem Scalar.eq_truthWord {b : Bool} (h : Scalar text (.bool b)) : text = truthWord b := by
  cases h <;> rfl

theorem Items.truthWord_infix {b : Bool} (h : Items text vs) (hb : .bool b ∈ vs) :
    truthWord b <:+: text := by
  induction h with
  | last h =>
    cases List.mem_singleton.mp hb
    rw [h.eq_truthWord]
    exact (List.prefix_append _ _).isInfix
  | @more text gap gap' rest v vs h _ _ _ ih =>
    rcases List.mem_cons.mp hb with rfl | hb
    · rw [h.eq_truthWord]
      exact (List.prefix_append _ _).isInfix
    · have hrest : rest <:+ text ++ (gap ++ ',' :: (gap' ++ rest)) :=
        ⟨text ++ (gap ++ ',' :: gap'), by simp⟩
      exact (ih hb).trans hrest.isInfix

/-- An array with a truth value has its word in it. -/
theorem IsArray.truthWord_infix {b : Bool} (h : IsArray source vs) (hb : .bool b ∈ vs) :
    truthWord b <:+: source.toList := by
  obtain ⟨gap, array, gap', -, harray, -, hsource⟩ := h
  have hword : truthWord b <:+: array := by
    cases harray with
    | empty => exact absurd hb List.not_mem_nil
    | @items gap text vs _ hitems =>
      have htext : text <:+ '[' :: (gap ++ text) := ⟨'[' :: gap, rfl⟩
      exact (hitems.truthWord_infix hb).trans htext.isInfix
  rw [hsource]
  exact hword.trans ⟨gap, gap', by simp⟩

end StorageAgent.Json
