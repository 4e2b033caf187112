import Mathlib.Data.List.Nodup
import StorageAgent.Proofs.Bytes
import StorageAgent.Proofs.Message.Compiled

/-!
# Who has to sign

The header of a message says how many of its keys sign. The payer is one of them, and so is every
other key that some use makes a signer. A key stands in the table once, however often it is used,
so it is counted once.

* `otherKeys_nodup`: inserting in order leaves no key twice.
* `compile_signers`: the count in the header.
* `signers_of_caller`: the count if the invocations ask one account to sign.
-/
namespace StorageAgent

namespace Address

variable {a b c : Address}

theorem precedes_iff_lt : a.precedes b = true ↔ a.bytes < b.bytes := Bytes.precedes_iff_lt

theorem precedes_irrefl : ¬ a.precedes a = true := by
  rw [precedes_iff_lt]
  exact List.lt_irrefl a.bytes

theorem precedes_trans (hab : a.precedes b = true) (hbc : b.precedes c = true) :
    a.precedes c = true := by
  rw [precedes_iff_lt] at hab hbc ⊢
  exact List.lt_trans hab hbc

theorem precedes_of_not (hne : a ≠ b) (h : ¬ a.precedes b = true) : b.precedes a = true := by
  rw [precedes_iff_lt] at h ⊢
  by_contra hba
  have hbytes : a.bytes = b.bytes := List.le_antisymm (List.not_lt.1 hba) (List.not_lt.1 h)
  cases a
  cases b
  simp_all

end Address

namespace Message

variable {payer caller : Address} {blockhash : Blockhash} {invocations : List Invocation}
  {used : List AccountRef}

/-! ## Each key once -/

/-- Keys in the order of their bytes, none twice. -/
def Ordered (keys : List Address) : Prop := keys.Pairwise fun a b => a.precedes b = true

theorem insertKey_ordered {a : Address} {keys : List Address} (h : Ordered keys) :
    Ordered (insertKey a keys) := by
  induction keys with
  | nil => exact List.pairwise_singleton _ a
  | cons b keys ih =>
    obtain ⟨hb, hkeys⟩ := List.pairwise_cons.1 h
    rw [insertKey]
    split
    · exact h
    · next hne =>
      split
      · next hab =>
        refine List.pairwise_cons.2 ⟨fun c hc => ?_, h⟩
        rcases List.mem_cons.1 hc with rfl | hc
        · exact hab
        · exact Address.precedes_trans hab (hb c hc)
      · next hab =>
        refine List.pairwise_cons.2 ⟨fun c hc => ?_, ih hkeys⟩
        rcases mem_insertKey.1 hc with rfl | hc
        · exact Address.precedes_of_not hne hab
        · exact hb c hc

theorem foldr_insertKey_ordered (addresses : List Address) :
    Ordered (addresses.foldr insertKey []) := by
  induction addresses with
  | nil => exact List.Pairwise.nil
  | cons a addresses ih => exact insertKey_ordered ih

theorem otherKeys_nodup (payer : Address) (used : List AccountRef) :
    (otherKeys payer used).Nodup := by
  refine (foldr_insertKey_ordered _).imp ?_
  intro a b hab heq
  subst heq
  exact Address.precedes_irrefl hab

/-! ## The count of signers -/

/-- The header counts the payer and the other keys that sign. -/
theorem compile_signers : (compile payer blockhash invocations).header.signers =
    1 + (otherKeys payer (uses payer invocations)).countP (signs (uses payer invocations)) := by
  have hsigners : (compile payer blockhash invocations).header.signers =
      1 + (group (uses payer invocations) (otherKeys payer (uses payer invocations)) true true).length +
        (group (uses payer invocations) (otherKeys payer (uses payer invocations)) true false).length :=
    rfl
  have hlength :=
    (group_perm (uses payer invocations) (otherKeys payer (uses payer invocations)) true).length_eq
  simp only [List.length_append, beq_true] at hlength
  rw [hsigners, Nat.add_assoc, hlength, List.countP_eq_length_filter]

/-- If the invocations ask one account to sign and no other, then this is the second signer, unless
it pays. -/
theorem signers_of_caller
    (hsigns : ∀ a, signs (uses payer invocations) a = true ↔ a = payer ∨ a = caller) :
    (compile payer blockhash invocations).header.signers = if caller = payer then 1 else 2 := by
  have hothers : (otherKeys payer (uses payer invocations)).countP
      (signs (uses payer invocations)) = (otherKeys payer (uses payer invocations)).count caller := by
    refine List.countP_congr fun a ha => ?_
    have hpayer : a ≠ payer := (mem_otherKeys.1 ha).2
    simp [hsigns, hpayer]
  rw [compile_signers, hothers]
  split
  · next h =>
    have hnot : caller ∉ otherKeys payer (uses payer invocations) :=
      fun hmem => (mem_otherKeys.1 hmem).2 h
    rw [List.count_eq_zero_of_not_mem hnot]
  · next h =>
    have hused : ∃ u ∈ uses payer invocations, u.address = caller := by
      obtain ⟨u, hu, hsigner⟩ := List.any_eq_true.1 ((hsigns caller).2 (.inr rfl))
      exact ⟨u, hu, by simp_all⟩
    rw [List.count_eq_one_of_mem (otherKeys_nodup _ _) (mem_otherKeys.2 ⟨hused, h⟩)]

end Message
end StorageAgent
