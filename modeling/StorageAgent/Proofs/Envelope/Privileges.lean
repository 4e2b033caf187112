import StorageAgent.Proofs.Envelope.Assembled
import StorageAgent.Proofs.Message.Signers

/-!
# What a message lets its keys do

No key of a message is marked. What a key may do follows from where it stands and from the three
counts of the header, so the groups, their order and the counts have to fit for every coincidence of
addresses.

* `Message.isSigner_compile`, `Message.isWritable_compile`: the place of a key tells what its uses
  asked for, and no more.
* `Instruction.accountsFor_roles`: the caller, the accounts that the program writes to, and those
  that it reads.
* `Envelope.message_privileges`: the keys of an instruction's message and what each of them may do.
-/
namespace StorageAgent

/-! ## Places in a list of two parts -/

/-- If the first part has a property and the second part has not, the place of an item tells whether
it has the property. -/
theorem lt_length_iff_of_split {α : Type} {front back : List α} {P : α → Prop}
    (hfront : ∀ a ∈ front, P a) (hback : ∀ a ∈ back, ¬ P a) {i : Nat} {a : α}
    (h : (front ++ back)[i]? = some a) : i < front.length ↔ P a := by
  rcases Nat.lt_or_ge i front.length with hlt | hge
  · rw [List.getElem?_append_left hlt] at h
    exact iff_of_true hlt (hfront a (List.mem_of_getElem? h))
  · rw [List.getElem?_append_right hge] at h
    exact iff_of_false (by omega) (hback a (List.mem_of_getElem? h))

namespace Message

variable {payer a : Address} {blockhash : Blockhash} {invocations : List Invocation}
  {used : List AccountRef} {others : List Address} {signer writable : Bool}

/-! ## Keys by their places -/

theorem keys_nodup : (compile payer blockhash invocations).keys.Nodup := by
  rw [keys_perm.nodup_iff, List.nodup_cons]
  exact ⟨fun h => (mem_otherKeys.1 h).2 rfl, otherKeys_nodup _ _⟩

theorem signs_of_mem_group (h : a ∈ group used others signer writable) : signs used a = signer := by
  have := (List.mem_filter.1 h).2
  simp_all

theorem writes_of_mem_group (h : a ∈ group used others signer writable) :
    writes used a = writable := by
  have := (List.mem_filter.1 h).2
  simp_all

theorem signs_payer : signs (uses payer invocations) payer = true := by
  simp [signs, uses, AccountRef.payer]

theorem writes_payer : writes (uses payer invocations) payer = true := by
  simp [writes, uses, AccountRef.payer]

/-- The group of a message's keys that sign and write as told. The payer is in none. -/
def groupOf (payer : Address) (invocations : List Invocation) (signer writable : Bool) :
    List Address :=
  group (uses payer invocations) (otherKeys payer (uses payer invocations)) signer writable

theorem compile_keys : (compile payer blockhash invocations).keys =
    payer :: (groupOf payer invocations true true ++ groupOf payer invocations true false ++
      groupOf payer invocations false true ++ groupOf payer invocations false false) := rfl

theorem compile_header : (compile payer blockhash invocations).header = {
    signers := 1 + (groupOf payer invocations true true).length +
      (groupOf payer invocations true false).length
    readonlySigners := (groupOf payer invocations true false).length
    readonlyOthers := (groupOf payer invocations false false).length } := rfl

/-- A key stands among the signers if some use of it signs. -/
theorem isSigner_compile {i : Nat} (h : (compile payer blockhash invocations).keys[i]? = some a) :
    (compile payer blockhash invocations).isSigner i = signs (uses payer invocations) a := by
  let front := payer :: (groupOf payer invocations true true ++ groupOf payer invocations true false)
  let back := groupOf payer invocations false true ++ groupOf payer invocations false false
  have hkeys : (front ++ back)[i]? = some a := by
    rw [← h, compile_keys]
    simp only [front, back, List.cons_append, List.append_assoc]
  have hfront : ∀ b ∈ front, signs (uses payer invocations) b = true := by
    intro b hb
    rcases List.mem_cons.1 hb with rfl | hb
    · exact signs_payer
    · rcases List.mem_append.1 hb with hb | hb <;> exact signs_of_mem_group hb
  have hback : ∀ b ∈ back, ¬ signs (uses payer invocations) b = true := by
    intro b hb
    rw [Bool.not_eq_true]
    rcases List.mem_append.1 hb with hb | hb <;> exact signs_of_mem_group hb
  have hcount : front.length = (compile payer blockhash invocations).header.signers := by
    simp only [front, compile_header, List.length_cons, List.length_append]
    omega
  rw [Bool.eq_iff_iff, ← lt_length_iff_of_split hfront hback hkeys, hcount, isSigner,
    decide_eq_true_iff]

/-- A key stands among the first signers, or among the first of the others, if some use of it
writes. -/
theorem isWritable_compile {i : Nat} (h : (compile payer blockhash invocations).keys[i]? = some a) :
    (compile payer blockhash invocations).isWritable i = writes (uses payer invocations) a := by
  let front := payer :: groupOf payer invocations true true
  let back := groupOf payer invocations true false
  have hwrites : ∀ {signer : Bool} {b}, b ∈ groupOf payer invocations signer true →
      writes (uses payer invocations) b = true := writes_of_mem_group
  have hreads : ∀ {signer : Bool} {b}, b ∈ groupOf payer invocations signer false →
      ¬ writes (uses payer invocations) b = true := by
    intro signer b hb
    rw [Bool.not_eq_true]
    exact writes_of_mem_group hb
  have hfront : ∀ b ∈ front, writes (uses payer invocations) b = true := by
    intro b hb
    rcases List.mem_cons.1 hb with rfl | hb
    · exact writes_payer
    · exact hwrites hb
  have hsigners : (front ++ back).length = (compile payer blockhash invocations).header.signers := by
    simp only [front, back, compile_header, List.length_cons, List.length_append]
    omega
  have hkeys : (compile payer blockhash invocations).keys = (front ++ back) ++
      (groupOf payer invocations false true ++ groupOf payer invocations false false) := by
    rw [compile_keys]
    simp only [front, back, List.cons_append, List.append_assoc]
  rw [Bool.eq_iff_iff, isWritable]
  rw [hkeys] at h
  by_cases hlt : i < (compile payer blockhash invocations).header.signers
  · -- among the signers the read-only ones stand last
    rw [← hsigners] at hlt
    rw [List.getElem?_append_left hlt] at h
    have hfirst : (compile payer blockhash invocations).header.signers -
        (compile payer blockhash invocations).header.readonlySigners = front.length := by
      simp only [front, compile_header, List.length_cons]
      omega
    rw [if_pos (hsigners ▸ hlt), decide_eq_true_iff, hfirst]
    exact lt_length_iff_of_split hfront (fun b => hreads) h
  · -- and so they do among the others
    have hge : (front ++ back).length ≤ i := by omega
    rw [List.getElem?_append_right hge] at h
    have hlast : (compile payer blockhash invocations).keys.length -
        (compile payer blockhash invocations).header.readonlyOthers =
          (front ++ back).length + (groupOf payer invocations false true).length := by
      rw [hkeys]
      simp only [compile_header, List.length_append]
      omega
    rw [if_neg hlt, decide_eq_true_iff, hlast,
      ← lt_length_iff_of_split (fun b => hwrites) (fun b => hreads) h]
    omega

/-- The keys of a message are distinct and are the given ones. The header makes those signers that
sign, and those writable that write. -/
structure Grants (m : Message) (uses signs writes : Address → Prop) : Prop where
  distinct : m.keys.Nodup
  keys : ∀ a, a ∈ m.keys ↔ uses a
  signers : ∀ i a, m.keys[i]? = some a → (m.isSigner i = true ↔ signs a)
  writables : ∀ i a, m.keys[i]? = some a → (m.isWritable i = true ↔ writes a)

/-- Compiling grants what the uses ask for. -/
theorem compile_grants (payer : Address) (blockhash : Blockhash) (invocations : List Invocation) :
    (compile payer blockhash invocations).Grants
      (fun a => ∃ u ∈ uses payer invocations, u.address = a)
      (fun a => signs (uses payer invocations) a = true)
      (fun a => writes (uses payer invocations) a = true) where
  distinct := keys_nodup
  keys _ := mem_keys
  signers _ _ h := by rw [isSigner_compile h]
  writables _ _ h := by rw [isWritable_compile h]

theorem Grants.congr {m : Message} {uses signs writes uses' signs' writes' : Address → Prop}
    (h : m.Grants uses signs writes) (huses : ∀ a, uses a ↔ uses' a) (hsigns : ∀ a, signs a ↔ signs' a)
    (hwrites : ∀ a, writes a ↔ writes' a) : m.Grants uses' signs' writes' where
  distinct := h.distinct
  keys a := (h.keys a).trans (huses a)
  signers i a hkey := (h.signers i a hkey).trans (hsigns a)
  writables i a hkey := (h.writables i a hkey).trans (hwrites a)

end Message

/-! ## The accounts of an instruction -/

namespace Instruction

variable {program caller : Address} {instruction : Instruction} {o : Opcode}

/-- The accounts that the program keeps and that an opcode works on. -/
def Keeps (program caller : Address) (o : Opcode) (a : Address) : Prop :=
  (o ≠ .sendRequest ∧ ∃ found, Address.bookkeeper program = .ok found ∧ found.address = a) ∨
    (o ≠ .initBookkeeper ∧
      ∃ found, Address.requestAccount program caller = .ok found ∧ found.address = a)

/-- The accounts that an opcode only reads: what it needs to create an account. -/
def Reads (o : Opcode) (a : Address) : Prop :=
  (o = .initBookkeeper ∨ o = .createClientAccount) ∧
    (a = Address.systemProgram ∨ a = Address.rentSysvar)

/-- An opcode's accounts are the caller, those that the program keeps, and those that it reads. -/
theorem accountsFor_roles {accounts : List AccountRef}
    (h : accountsFor program caller o = .ok accounts) :
    ∃ kept read : List Address,
      accounts = .payer caller :: (kept.map .owned ++ read.map .fixed) ∧
        (∀ a, a ∈ kept ↔ Keeps program caller o a) ∧ ∀ a, a ∈ read ↔ Reads o a := by
  cases o with
  | initBookkeeper =>
    obtain ⟨bookkeeper, hb, h⟩ := bind_eq_ok_iff.1 h
    cases h
    refine ⟨[bookkeeper.address], [Address.systemProgram, Address.rentSysvar], rfl, ?_, ?_⟩
    · simp [Keeps, hb, eq_comm]
    · simp [Reads]
  | createClientAccount =>
    obtain ⟨request, hr, h⟩ := bind_eq_ok_iff.1 h
    obtain ⟨bookkeeper, hb, h⟩ := bind_eq_ok_iff.1 h
    cases h
    refine ⟨[bookkeeper.address, request.address], [Address.systemProgram, Address.rentSysvar], rfl,
      ?_, ?_⟩
    · simp [Keeps, hb, hr, eq_comm]
    · simp [Reads]
  | deleteClient =>
    obtain ⟨request, hr, h⟩ := bind_eq_ok_iff.1 h
    obtain ⟨bookkeeper, hb, h⟩ := bind_eq_ok_iff.1 h
    cases h
    refine ⟨[bookkeeper.address, request.address], [], rfl, ?_, ?_⟩
    · simp [Keeps, hb, hr, eq_comm]
    · simp [Reads]
  | sendRequest =>
    obtain ⟨request, hr, h⟩ := bind_eq_ok_iff.1 h
    cases h
    refine ⟨[request.address], [], rfl, ?_, ?_⟩
    · simp [Keeps, hr, eq_comm]
    · simp [Reads]

/-- Some account of an instruction has this address and is marked so. -/
def Marks (instruction : Instruction) (mark : AccountRef → Bool) (a : Address) : Prop :=
  ∃ r ∈ instruction.accounts, r.address = a ∧ mark r = true

section Encoded

variable {opcode : Argument} {args : Arguments} {a : Address}

theorem encode_roles (h : encode program caller opcode args = .ok instruction) :
    ∃ kept read : List Address,
      instruction.accounts = .payer caller :: (kept.map .owned ++ read.map .fixed) ∧
        (∀ a, a ∈ kept ↔ Keeps program caller instruction.opcode a) ∧
        ∀ a, a ∈ read ↔ Reads instruction.opcode a := by
  obtain ⟨o, call, accounts, -, -, haccounts, rfl⟩ := encode_eq_ok_iff.1 h
  exact accountsFor_roles haccounts

/-- The marks of an address come from the roles that it has. -/
theorem marks_iff (h : encode program caller opcode args = .ok instruction)
    {mark : AccountRef → Bool} : instruction.Marks mark a ↔
      (a = caller ∧ mark (.payer a) = true) ∨
        (Keeps program caller instruction.opcode a ∧ mark (.owned a) = true) ∨
          (Reads instruction.opcode a ∧ mark (.fixed a) = true) := by
  obtain ⟨kept, read, haccounts, hkept, hread⟩ := encode_roles h
  rw [← hkept, ← hread, Marks, haccounts]
  constructor
  · intro ⟨r, hr, haddress, hmark⟩
    subst haddress
    rcases List.mem_cons.1 hr with rfl | hr
    · exact .inl ⟨rfl, hmark⟩
    · rcases List.mem_append.1 hr with hr | hr
      · obtain ⟨b, hb, rfl⟩ := List.mem_map.1 hr
        exact .inr (.inl ⟨hb, hmark⟩)
      · obtain ⟨b, hb, rfl⟩ := List.mem_map.1 hr
        exact .inr (.inr ⟨hb, hmark⟩)
  · intro hrole
    rcases hrole with ⟨rfl, hmark⟩ | ⟨ha, hmark⟩ | ⟨ha, hmark⟩
    · exact ⟨_, List.mem_cons_self .., rfl, hmark⟩
    · exact ⟨_, List.mem_cons_of_mem _ (List.mem_append_left _ (List.mem_map_of_mem ha)), rfl, hmark⟩
    · exact ⟨_, List.mem_cons_of_mem _ (List.mem_append_right _ (List.mem_map_of_mem ha)), rfl, hmark⟩

theorem mem_addresses_iff (h : encode program caller opcode args = .ok instruction) :
    a ∈ instruction.accounts.map (·.address) ↔
      a = caller ∨ Keeps program caller instruction.opcode a ∨ Reads instruction.opcode a := by
  have hmarks : instruction.Marks (fun _ => true) a ↔ _ := marks_iff h
  simpa [Marks] using hmarks

theorem marks_signer_iff (h : encode program caller opcode args = .ok instruction) :
    instruction.Marks (·.signer) a ↔ a = caller := by
  simp [marks_iff h, AccountRef.payer, AccountRef.owned, AccountRef.fixed]

theorem marks_writable_iff (h : encode program caller opcode args = .ok instruction) :
    instruction.Marks (·.writable) a ↔
      a = caller ∨ Keeps program caller instruction.opcode a := by
  simp [marks_iff h, AccountRef.payer, AccountRef.owned, AccountRef.fixed]

/-- If no address is used for two things, what is only read is neither the caller nor kept. -/
theorem not_written_of_distinct (h : encode program caller opcode args = .ok instruction)
    (hdistinct :
      (Address.computeBudgetProgram :: program :: instruction.accounts.map (·.address)).Nodup)
    (ha : a = Address.computeBudgetProgram ∨ a = program ∨ Reads instruction.opcode a) :
    ¬ (a = caller ∨ Keeps program caller instruction.opcode a) := by
  obtain ⟨kept, read, haccounts, hkept, hread⟩ := encode_roles h
  have hlist : instruction.accounts.map (·.address) = (caller :: kept) ++ read := by
    simp [haccounts, AccountRef.payer, AccountRef.owned, AccountRef.fixed, Function.comp_def]
  have hwritten : (a = caller ∨ Keeps program caller instruction.opcode a) ↔ a ∈ caller :: kept := by
    rw [List.mem_cons, hkept]
  rw [hlist, List.nodup_cons, List.nodup_cons, List.nodup_append] at hdistinct
  obtain ⟨hlimit, hprogram, -, -, hapart⟩ := hdistinct
  rw [hwritten]
  intro hmem
  rcases ha with rfl | rfl | ha
  · exact hlimit (List.mem_cons_of_mem _ (List.mem_append_left _ hmem))
  · exact hprogram (List.mem_append_left _ hmem)
  · exact hapart a hmem a ((hread a).2 ha) rfl

end Encoded

end Instruction

/-! ## The message of an instruction -/

namespace Envelope

variable {payer caller program a : Address} {blockhash : Blockhash} {units : Nat}
  {instruction : Instruction}

/-- The payer signs, and so do the accounts that are marked to. -/
theorem signs_uses_iff :
    Message.signs (Message.uses payer [.setComputeUnitLimit units, instruction.invocation]) a = true ↔
      a = payer ∨ instruction.Marks (·.signer) a := by
  rw [@eq_comm _ a payer]
  simp [Instruction.Marks, Message.signs, Message.uses, Invocation.setComputeUnitLimit,
    Instruction.invocation, AccountRef.payer, AccountRef.fixed]

/-- The payer is written to, and so are the accounts that are marked so. -/
theorem writes_uses_iff :
    Message.writes (Message.uses payer [.setComputeUnitLimit units, instruction.invocation]) a = true ↔
      a = payer ∨ instruction.Marks (·.writable) a := by
  rw [@eq_comm _ a payer]
  simp [Instruction.Marks, Message.writes, Message.uses, Invocation.setComputeUnitLimit,
    Instruction.invocation, AccountRef.payer, AccountRef.fixed]

/-- A message grants its payer everything, and the other keys what the accounts ask for. -/
theorem message_grants (payer : Address) (blockhash : Blockhash) (units : Nat)
    (instruction : Instruction) :
    (message payer blockhash units instruction).Grants
      (fun a => a = payer ∨ a = Address.computeBudgetProgram ∨ a = instruction.program ∨
        a ∈ instruction.accounts.map (·.address))
      (fun a => a = payer ∨ instruction.Marks (·.signer) a)
      (fun a => a = payer ∨ instruction.Marks (·.writable) a) := by
  refine (Message.compile_grants payer blockhash _).congr ?_ (fun _ => signs_uses_iff)
    (fun _ => writes_uses_iff)
  intro a
  rw [@eq_comm _ a payer, @eq_comm _ a Address.computeBudgetProgram,
    @eq_comm _ a instruction.program]
  simp [Message.uses, Invocation.setComputeUnitLimit, Instruction.invocation, AccountRef.payer,
    AccountRef.fixed]

/-- The keys of an instruction's message, and what the header lets each of them do. -/
theorem message_privileges {opcode : Argument} {args : Arguments}
    (hencode : Instruction.encode program caller opcode args = .ok instruction) :
    (message payer blockhash units instruction).Grants
      (fun a => a = payer ∨ a = Address.computeBudgetProgram ∨ a = program ∨
        a ∈ instruction.accounts.map (·.address))
      (fun a => a = payer ∨ instruction.Marks (·.signer) a)
      (fun a => a = payer ∨ instruction.Marks (·.writable) a) ∧
    -- the caller pays, and no address is used for two things
    (payer = caller →
      (Address.computeBudgetProgram :: program :: instruction.accounts.map (·.address)).Nodup →
      (message payer blockhash units instruction).Grants
        (fun a => a = caller ∨ a = Address.computeBudgetProgram ∨ a = program ∨
          Instruction.Keeps program caller instruction.opcode a ∨
            Instruction.Reads instruction.opcode a)
        (fun a => a = caller)
        (fun a => a = caller ∨ Instruction.Keeps program caller instruction.opcode a) ∧
      ∀ i a, (message payer blockhash units instruction).keys[i]? = some a →
        a = Address.computeBudgetProgram ∨ a = program ∨ Instruction.Reads instruction.opcode a →
          (message payer blockhash units instruction).isWritable i = false) := by
  have hgrants := message_grants payer blockhash units instruction
  rw [(Instruction.encode_fits hencode).1] at hgrants
  refine ⟨hgrants, ?_⟩
  intro hpayer hdistinct
  subst hpayer
  refine ⟨hgrants.congr (fun a => ?_) (fun a => ?_) (fun a => ?_), ?_⟩
  · rw [Instruction.mem_addresses_iff hencode]
    tauto
  · rw [Instruction.marks_signer_iff hencode, or_self]
  · rw [Instruction.marks_writable_iff hencode, ← or_assoc, or_self]
  · intro i a h hread
    rw [Bool.eq_false_iff, Ne, hgrants.writables i a h, Instruction.marks_writable_iff hencode,
      ← or_assoc, or_self]
    exact Instruction.not_written_of_distinct hencode hdistinct hread

/-- The bookkeeper's creation by the key that pays: the bookkeeper is written to without signing, and
the agent program is only read. -/
theorem message_privileges_creation :
    Instruction.encode Sample.program Sample.key.address (.int 0) .none = .ok Sample.instruction ∧
      (Address.computeBudgetProgram :: Sample.program ::
        Sample.instruction.accounts.map (·.address)).Nodup ∧
      Sample.message.keys[1]? = some Sample.bookkeeper ∧ Sample.message.isSigner 1 = false ∧
      Sample.message.isWritable 1 = true ∧
      Sample.message.keys[3]? = some Sample.program ∧ Sample.message.isWritable 3 = false := by
  have hdistinct : (Address.computeBudgetProgram :: Sample.program ::
      Sample.instruction.accounts.map (·.address)).Nodup := by decide
  have hbookkeeper : Sample.message.keys[1]? = some Sample.bookkeeper := by decide
  have hprogram : Sample.message.keys[3]? = some Sample.program := by decide
  obtain ⟨hgrants, hroles⟩ :=
    @message_privileges Sample.key.address _ _ Sample.blockhash defaultUnitLimit _ _ _ Sample.encode_eq
  obtain ⟨hcaller, hread⟩ := hroles rfl hdistinct
  have hwritten : Sample.instruction.Marks (·.writable) Sample.bookkeeper :=
    ⟨.owned Sample.bookkeeper, by simp [Sample.instruction], rfl, rfl⟩
  have hsigner : Sample.message.isSigner 1 = true ↔ Sample.bookkeeper = Sample.key.address :=
    hcaller.signers 1 _ hbookkeeper
  have hother : Sample.bookkeeper ≠ Sample.key.address := by decide
  exact ⟨Sample.encode_eq, hdistinct, hbookkeeper, Bool.eq_false_iff.2 fun h => hother (hsigner.1 h),
    (hgrants.writables 1 _ hbookkeeper).2 (.inr hwritten), hprogram,
    hread 3 _ hprogram (.inr (.inl rfl))⟩

end Envelope
end StorageAgent
