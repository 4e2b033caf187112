import StorageAgent.Json.Writer
import StorageAgent.Proofs.Json.Arrays

/-!
# Arrays as they are written

The writer gives an integer in decimal digits without zeros in front, and puts a comma and perhaps
a blank between the items of an array. So an array of plain items that is written is read back.

* `scalar_write`: a plain item is written as one.
* `isArray_write`, `parse_write_list`: the array is written as one, and is read as it was.
-/
namespace StorageAgent.Json

variable {layout : Layout} {gap : List Char} {depth n : Nat} {v : Json} {items : List Json}

/-! ## Integers -/

theorem isDigit_of_mem_toDigits {c : Char} (h : c ∈ Nat.toDigits 10 n) : isDigit c = true := by
  have hc : c.isDigit = true := Nat.isDigit_of_mem_toDigits (by decide) (by decide) h
  unfold Char.isDigit at hc
  rw [Bool.and_eq_true, decide_eq_true_iff, decide_eq_true_iff] at hc
  exact decide_eq_true hc

/-- No zero stands in front, save in the integer 0. -/
theorem eq_zero_of_head_toDigits (h : (Nat.toDigits 10 n).head? = some '0') : n = 0 := by
  induction n using Nat.strongRecOn with
  | ind n ih =>
    by_cases hn : n < 10
    · rw [Nat.toDigits_of_lt_base hn] at h
      have hall : ∀ m < 10, [m.digitChar].head? = some '0' → m = 0 := by decide
      exact hall n hn h
    · have hne : Nat.toDigits 10 (n / 10) ≠ [] := Nat.toDigits_ne_nil
      obtain ⟨c, digits, hdigits⟩ := List.exists_cons_of_ne_nil hne
      rw [Nat.toDigits_of_base_le (by decide) (by omega), hdigits] at h
      have hzero : n / 10 = 0 := ih (n / 10) (by omega) (by rw [hdigits]; exact h)
      omega

theorem numeral_toDigits (n : Nat) : Numeral (Nat.toDigits 10 n) where
  nonempty := Nat.toDigits_ne_nil
  digit := fun _ hc => isDigit_of_mem_toDigits hc
  zero := by
    intro h
    rw [eq_zero_of_head_toDigits h]
    rfl

theorem digitsValue_toDigits (n : Nat) : digitsValue (Nat.toDigits 10 n) = n :=
  Nat.ofDigitChars_ten_toDigits

theorem scalar_toString (n : Int) : Scalar (toString n).toList (.int n) := by
  cases n with
  | ofNat m =>
    have h := Scalar.plain (numeral_toDigits m)
    rw [signed, digitsValue_toDigits] at h
    show Scalar (String.ofList (Nat.toDigits 10 m)).toList (.int m)
    rwa [String.toList_ofList]
  | negSucc m =>
    have h := Scalar.negative (numeral_toDigits (m + 1))
    rw [signed, if_pos rfl, digitsValue_toDigits] at h
    show Scalar ("-" ++ String.ofList (Nat.toDigits 10 (m + 1))).toList (.int (Int.negSucc m))
    rwa [String.toList_append, String.toList_ofList, String.toList_ofList]

/-! ## Items and arrays -/

theorem scalar_write (h : Plain v) : Scalar (write layout v).toList v := by
  cases h with
  | bool b =>
    unfold write
    cases b with
    | false => exact .no
    | true => exact .yes
  | @int n h =>
    unfold write
    exact scalar_toString n

theorem items_write (hcomma : layout.comma.toList = ',' :: gap) (hgap : Gap gap)
    (h : ∀ v ∈ items, Plain v) (hitems : items ≠ []) :
    Items ((layout.comma.intercalate (writeItems layout items)).toList ++ [']']) items := by
  rw [String.toList_intercalate, hcomma]
  induction items with
  | nil => exact absurd rfl hitems
  | cons v items ih =>
    have hv : Scalar (write layout v).toList v := scalar_write (h v List.mem_cons_self)
    cases items with
    | nil =>
      have hlast := Items.last hv gap_nil
      unfold writeItems writeItems
      simpa only [List.map_cons, List.map_nil, List.intercalate, List.intersperse, List.flatten_cons,
        List.flatten_nil, List.append_nil, List.nil_append] using hlast
    | cons w items =>
      have hmore := Items.more hv gap_nil hgap
        (ih (fun u hu => h u (List.mem_cons_of_mem _ hu)) (List.cons_ne_nil _ _))
      unfold writeItems at hmore ⊢
      unfold writeItems
      simpa only [List.map_cons, List.intercalate, List.intersperse, List.flatten_cons,
        List.nil_append, List.append_assoc, List.cons_append] using hmore

theorem isArray_write (hcomma : layout.comma.toList = ',' :: gap) (hgap : Gap gap)
    (h : ∀ v ∈ items, Plain v) : IsArray (write layout (.list items)) items := by
  refine ⟨[], (write layout (.list items)).toList, [], gap_nil, ?_, gap_nil, by simp⟩
  unfold write
  rw [String.toList_append, String.toList_append]
  by_cases hitems : items = []
  · subst hitems
    exact .empty gap_nil
  · have hwritten := items_write hcomma hgap h hitems
    show ArrayText
      ('[' :: ([] ++ ((layout.comma.intercalate (writeItems layout items)).toList ++ [']']))) items
    exact .items gap_nil hwritten

/-- An array of plain items that is written is read back. -/
theorem parse_write_list (hcomma : layout.comma.toList = ',' :: gap) (hgap : Gap gap)
    (h : ∀ v ∈ items, Plain v) : parse (depth + 1) (write layout (.list items)) = .ok (.list items) :=
  (parse_list_iff h).mpr (isArray_write hcomma hgap h)

end StorageAgent.Json
