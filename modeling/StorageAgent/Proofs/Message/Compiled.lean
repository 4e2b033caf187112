import Mathlib.Data.List.Forall2
import StorageAgent.Message
import StorageAgent.Proofs.Transaction.Parsing

/-!
# What a compiled message says

Compiling collects the keys of all uses, each once, and puts them in groups. Whatever order that
gives, an index into the key table names the key that was looked up.

* `mem_keys`, `length_keys_le`: the key table holds the addresses in use, and no others.
* `Says`, `compile_says`: the instructions of the message name, by their indexes, what the
  invocations name, in their order.
* `compile_encodable`: a message of few accounts and short data can be written.
-/
namespace StorageAgent.Message

variable {payer : Address} {blockhash : Blockhash} {invocations : List Invocation}
  {used : List AccountRef}

/-! ## Keys beside the payer -/

theorem mem_insertKey {a b : Address} {keys : List Address} :
    b ∈ insertKey a keys ↔ b = a ∨ b ∈ keys := by
  induction keys with
  | nil => simp [insertKey]
  | cons c keys ih =>
    rw [insertKey]
    split
    · next h =>
      subst h
      simp
    · split
      · simp
      · simp only [List.mem_cons, ih]
        exact or_left_comm

theorem length_insertKey_le (a : Address) (keys : List Address) :
    (insertKey a keys).length ≤ keys.length + 1 := by
  induction keys with
  | nil => simp [insertKey]
  | cons c keys ih =>
    rw [insertKey]
    split
    · simp
    · split
      · simp
      · simp only [List.length_cons]
        omega

theorem mem_foldr_insertKey {a : Address} {addresses : List Address} :
    a ∈ addresses.foldr insertKey [] ↔ a ∈ addresses := by
  induction addresses with
  | nil => simp
  | cons b addresses ih => rw [List.foldr_cons, mem_insertKey, ih, List.mem_cons]

theorem length_foldr_insertKey_le (addresses : List Address) :
    (addresses.foldr insertKey []).length ≤ addresses.length := by
  induction addresses with
  | nil => simp
  | cons b addresses ih =>
    have := length_insertKey_le b (addresses.foldr insertKey [])
    rw [List.foldr_cons, List.length_cons]
    omega

theorem mem_otherKeys {a : Address} :
    a ∈ otherKeys payer used ↔ (∃ u ∈ used, u.address = a) ∧ a ≠ payer := by
  simp [otherKeys, mem_foldr_insertKey]

/-! ## Groups of keys -/

/-- The addresses among `others` that sign and write as told. -/
def group (used : List AccountRef) (others : List Address) (signer writable : Bool) :
    List Address :=
  others.filter fun a => signs used a == signer && writes used a == writable

/-- Those who sign, or those who do not, are the ones who write and the ones who only read. -/
theorem group_perm (used : List AccountRef) (others : List Address) (signer : Bool) :
    (group used others signer true ++ group used others signer false).Perm
      (others.filter fun a => signs used a == signer) := by
  have h := List.filter_append_perm (writes used) (others.filter fun a => signs used a == signer)
  simpa [group, Bool.and_comm] using h

/-- Every key is in one of the four groups. -/
theorem groups_perm (used : List AccountRef) (others : List Address) :
    (group used others true true ++ group used others true false ++ group used others false true ++
      group used others false false).Perm others := by
  have hsplit := (group_perm used others true).append (group_perm used others false)
  rw [List.append_assoc]
  refine hsplit.trans ?_
  simpa using List.filter_append_perm (signs used) others

/-- The key table is the payer and the other keys in some order. -/
theorem keys_perm : (compile payer blockhash invocations).keys.Perm
    (payer :: otherKeys payer (uses payer invocations)) :=
  (groups_perm _ _).cons payer

theorem mem_keys {a : Address} : a ∈ (compile payer blockhash invocations).keys ↔
    ∃ u ∈ uses payer invocations, u.address = a := by
  have hpayer : ∃ u ∈ uses payer invocations, u.address = payer :=
    ⟨.payer payer, List.mem_cons_self .., rfl⟩
  rw [keys_perm.mem_iff, List.mem_cons, mem_otherKeys]
  constructor
  · rintro (rfl | ⟨h, -⟩)
    · exact hpayer
    · exact h
  · intro h
    by_cases ha : a = payer
    · exact .inl ha
    · exact .inr ⟨h, ha⟩

theorem length_keys_le :
    (compile payer blockhash invocations).keys.length ≤ (uses payer invocations).length := by
  let later :=
    (invocations.flatMap fun i => AccountRef.fixed i.program :: i.accounts).map (·.address)
  -- the payer's own use is the first one, and it is left out
  have hothers : otherKeys payer (uses payer invocations) =
      (later.filter fun a => decide (a ≠ payer)).foldr insertKey [] := by
    rw [otherKeys, uses, List.map_cons, List.filter_cons_of_neg (by simp [AccountRef.payer])]
  have hinserted := length_foldr_insertKey_le (later.filter fun a => decide (a ≠ payer))
  have hfiltered := List.length_filter_le (fun a => decide (a ≠ payer)) later
  have hlater : later.length + 1 = (uses payer invocations).length := by
    rw [uses, List.length_cons, List.length_map]
  rw [keys_perm.length_eq, List.length_cons, hothers]
  omega

/-! ## Instructions -/

/-- By its indexes into a key table, an instruction names what an invocation names, and it holds the
same data. -/
structure Resolves (keys : List Address) (c : CompiledInstruction) (i : Invocation) : Prop where
  program : keys[c.program]? = some i.program
  accounts : c.accounts.map (fun index => keys[index]?) = i.accounts.map fun r => some r.address
  data : c.data = i.data

/-- A message is of this payer, is stamped with this block hash, and holds these invocations, in
this order and no others. -/
structure Says (m : Message) (payer : Address) (blockhash : Blockhash)
    (invocations : List Invocation) : Prop where
  payer : m.keys[0]? = some payer
  blockhash : m.blockhash = blockhash
  instructions : List.Forall₂ (Resolves m.keys) m.instructions invocations

/-- An invocation with the indexes of its accounts in a key table. -/
def indexed (keys : List Address) (i : Invocation) : CompiledInstruction where
  program := keys.idxOf i.program
  accounts := i.accounts.map fun r => keys.idxOf r.address
  data := i.data

theorem compile_instructions : (compile payer blockhash invocations).instructions =
    invocations.map (indexed (compile payer blockhash invocations).keys) := rfl

theorem mem_uses {i : Invocation} (h : i ∈ invocations) {r : AccountRef}
    (hr : r ∈ AccountRef.fixed i.program :: i.accounts) : r ∈ uses payer invocations :=
  List.mem_cons_of_mem _ (List.mem_flatMap.2 ⟨i, h, hr⟩)

theorem program_mem_keys {i : Invocation} (h : i ∈ invocations) :
    i.program ∈ (compile payer blockhash invocations).keys :=
  mem_keys.2 ⟨_, mem_uses h (List.mem_cons_self ..), rfl⟩

theorem account_mem_keys {i : Invocation} (h : i ∈ invocations) {r : AccountRef}
    (hr : r ∈ i.accounts) : r.address ∈ (compile payer blockhash invocations).keys :=
  mem_keys.2 ⟨r, mem_uses h (List.mem_cons_of_mem _ hr), rfl⟩

theorem indexed_resolves {i : Invocation} (h : i ∈ invocations) :
    Resolves (compile payer blockhash invocations).keys
      (indexed (compile payer blockhash invocations).keys i) i where
  program := List.getElem?_idxOf (program_mem_keys h)
  accounts := by
    simp only [indexed, List.map_map]
    exact List.map_congr_left fun r hr => List.getElem?_idxOf (account_mem_keys h hr)
  data := rfl

/-- Whatever the order of the key table, the message says what it was compiled from. -/
theorem compile_says : (compile payer blockhash invocations).Says payer blockhash invocations where
  payer := rfl
  blockhash := rfl
  instructions := by
    rw [compile_instructions, List.forall₂_map_left_iff, List.forall₂_same]
    exact fun i hi => indexed_resolves hi

/-! ## Written messages -/

theorem length_lt_uses : invocations.length < (uses payer invocations).length := by
  induction invocations with
  | nil => simp [uses]
  | cons i invocations ih =>
    simp only [uses, List.flatMap_cons, List.length_cons, List.length_append] at ih ⊢
    omega

theorem length_accounts_lt_uses {i : Invocation} (h : i ∈ invocations) :
    i.accounts.length < (uses payer invocations).length := by
  induction invocations with
  | nil => cases h
  | cons j invocations ih =>
    simp only [uses, List.flatMap_cons, List.length_cons, List.length_append] at ih ⊢
    rcases List.mem_cons.1 h with rfl | h
    · omega
    · have := ih h
      omega

theorem header_le_length_keys (payer : Address) (blockhash : Blockhash)
    (invocations : List Invocation) :
    (compile payer blockhash invocations).header.signers ≤
        (compile payer blockhash invocations).keys.length ∧
      (compile payer blockhash invocations).header.readonlySigners ≤
        (compile payer blockhash invocations).keys.length ∧
      (compile payer blockhash invocations).header.readonlyOthers ≤
        (compile payer blockhash invocations).keys.length := by
  simp only [compile, List.length_cons, List.length_append]
  omega

/-- A message can be written if fewer than 256 accounts are used and all data is short. -/
theorem compile_encodable (huses : (uses payer invocations).length < 256)
    (hdata : ∀ i ∈ invocations, i.data.length < 0x10000) :
    (compile payer blockhash invocations).Encodable := by
  have hkeys : (compile payer blockhash invocations).keys.length < 256 :=
    Nat.lt_of_le_of_lt length_keys_le huses
  obtain ⟨hsigners, hreadonly, hothers⟩ := header_le_length_keys payer blockhash invocations
  have hinvocations : invocations.length < (uses payer invocations).length := length_lt_uses
  exact {
    signers := by omega
    readonlySigners := by omega
    readonlyOthers := by omega
    keys := by omega
    instructions := by rw [compile_instructions, List.length_map]; omega
    instruction := by
      intro c hc
      rw [compile_instructions] at hc
      obtain ⟨i, hi, rfl⟩ := List.mem_map.1 hc
      have haccounts : i.accounts.length < (uses payer invocations).length :=
        length_accounts_lt_uses hi
      exact {
        program := Nat.lt_trans (List.idxOf_lt_length_iff.2 (program_mem_keys hi)) hkeys
        accounts := by rw [indexed, List.length_map]; omega
        index := by
          intro index hindex
          obtain ⟨r, hr, rfl⟩ := List.mem_map.1 hindex
          exact Nat.lt_trans (List.idxOf_lt_length_iff.2 (account_mem_keys hi hr)) hkeys
        data := hdata i hi } }

end StorageAgent.Message
