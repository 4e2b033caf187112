import StorageAgent.Transaction

/-!
# Reading back what was written

The wire format tells where each part ends, so each reader takes exactly what its writer wrote and
leaves what stands behind it.

* `readLength?_compactLength`, `readList?_append`: lengths, and lists behind their lengths.
* `Message.Encodable`, `Transaction.Encodable`: every number fits the bytes that it is written in.
* `parse?_bytes`: the bytes of a transaction are read as that transaction, to the last byte.
-/
namespace StorageAgent

/-! ## Lengths and lists -/

theorem takeExactly?_append (front rest : Bytes) :
    takeExactly? front.length (front ++ rest) = some (front, rest) := by
  have hlength : front.length ≤ (front ++ rest).length := by rw [List.length_append]; omega
  rw [takeExactly?, if_pos hlength, List.take_left, List.drop_left]

theorem readLength?_compactLength (n : Nat) (h : n < 0x10000) (rest : Bytes) :
    readLength? (compactLength n ++ rest) = some (n, rest) := by
  have hbyte : ∀ k : Nat, k < 256 → (UInt8.ofNat k).toNat = k := fun k hk =>
    UInt8.toNat_ofNat_of_lt' hk
  unfold compactLength
  split
  · next hn =>
    -- one byte
    simp only [List.cons_append, List.nil_append, readLength?, hbyte n (by omega), hn, if_true]
  · have hlow := hbyte (n % 0x80 + 0x80) (by omega)
    have hmore : ¬ n % 0x80 + 0x80 < 0x80 := by omega
    split
    · -- two bytes
      have hhigh := hbyte (n / 0x80) (by omega)
      have hlast : n / 0x80 < 0x80 := by omega
      simp only [List.cons_append, List.nil_append, readLength?, hlow, hhigh, if_neg hmore,
        if_pos hlast, Option.some.injEq, Prod.mk.injEq, and_true]
      omega
    · -- three bytes
      have hmiddle := hbyte (n / 0x80 % 0x80 + 0x80) (by omega)
      have hhigh := hbyte (n / 0x4000) (by omega)
      have hmore' : ¬ n / 0x80 % 0x80 + 0x80 < 0x80 := by omega
      simp only [List.cons_append, List.nil_append, readLength?, hlow, hmiddle, hhigh, if_neg hmore,
        if_neg hmore', Option.some.injEq, Prod.mk.injEq, and_true]
      omega

section
variable {α : Type} {read? : Bytes → Option (α × Bytes)} (write : α → Bytes) {items : List α}

/-- A list is read back if each of its items is, whatever stands behind it. -/
theorem readMany?_append (hitem : ∀ a ∈ items, ∀ rest, read? (write a ++ rest) = some (a, rest))
    (rest : Bytes) :
    readMany? read? items.length (items.flatMap write ++ rest) = some (items, rest) := by
  induction items with
  | nil => rfl
  | cons a items ih =>
    have hfirst := hitem a (List.mem_cons_self ..)
    have hothers := ih fun b hb => hitem b (List.mem_cons_of_mem _ hb)
    rw [List.flatMap_cons, List.append_assoc, List.length_cons, readMany?, hfirst]
    simp only [Option.bind_eq_bind, Option.bind_some, hothers]
    rfl

theorem readList?_append (hlength : items.length < 0x10000)
    (hitem : ∀ a ∈ items, ∀ rest, read? (write a ++ rest) = some (a, rest)) (rest : Bytes) :
    readList? read? (compactLength items.length ++ (items.flatMap write ++ rest)) =
      some (items, rest) := by
  rw [readList?, readLength?_compactLength _ hlength]
  exact readMany?_append write hitem rest

end

/-- Byte strings are read back as lists of bytes. -/
theorem readList?_bytes {b : Bytes} (hlength : b.length < 0x10000) (rest : Bytes) :
    readList? readByte? (compactLength b.length ++ (b ++ rest)) = some (b, rest) := by
  have h : readList? readByte? (compactLength b.length ++ (b.flatMap (fun x => [x]) ++ rest)) =
      some (b, rest) := readList?_append _ hlength (fun _ _ _ => rfl) rest
  rwa [List.flatMap_singleton'] at h

/-! ## Parts of a message -/

theorem Address.read?_bytes (a : Address) (rest : Bytes) :
    Address.read? (a.bytes ++ rest) = some (a, rest) := by
  have htake := takeExactly?_append a.bytes rest
  rw [a.size] at htake
  have hofBytes : Address.ofBytes? a.bytes = some a := dif_pos a.size
  simp only [Address.read?, htake, Option.bind_eq_bind, Option.bind_some, hofBytes]
  rfl

/-- The numbers of an instruction fit the bytes that they are written in. -/
structure CompiledInstruction.Encodable (i : CompiledInstruction) : Prop where
  program : i.program < 256
  accounts : i.accounts.length < 0x10000
  index : ∀ a ∈ i.accounts, a < 256
  data : i.data.length < 0x10000

theorem CompiledInstruction.read?_bytes {i : CompiledInstruction} (h : i.Encodable) (rest : Bytes) :
    CompiledInstruction.read? (i.bytes ++ rest) = some (i, rest) := by
  have hprogram : (UInt8.ofNat i.program).toNat = i.program := UInt8.toNat_ofNat_of_lt' h.program
  have hindexes : (i.accounts.map UInt8.ofNat).map (·.toNat) = i.accounts := by
    rw [List.map_map]
    calc i.accounts.map ((·.toNat) ∘ UInt8.ofNat)
        = i.accounts.map id :=
          List.map_congr_left fun a ha => UInt8.toNat_ofNat_of_lt' (h.index a ha)
      _ = i.accounts := List.map_id _
  have haccounts := readList?_bytes (b := i.accounts.map UInt8.ofNat)
    (by rw [List.length_map]; exact h.accounts) (compactLength i.data.length ++ (i.data ++ rest))
  rw [List.length_map] at haccounts
  have hdata := readList?_bytes h.data rest
  simp only [CompiledInstruction.bytes, List.cons_append, List.append_assoc,
    CompiledInstruction.read?, readByte?, Option.bind_eq_bind, Option.bind_some, haccounts, hdata,
    hprogram, hindexes]
  rfl

/-- The numbers of a message fit the bytes that they are written in. -/
structure Message.Encodable (m : Message) : Prop where
  signers : m.header.signers < 256
  readonlySigners : m.header.readonlySigners < 256
  readonlyOthers : m.header.readonlyOthers < 256
  keys : m.keys.length < 0x10000
  instructions : m.instructions.length < 0x10000
  instruction : ∀ i ∈ m.instructions, i.Encodable

theorem Message.read?_bytes {m : Message} (h : m.Encodable) (rest : Bytes) :
    Message.read? (m.bytes ++ rest) = some (m, rest) := by
  have hsigners : (UInt8.ofNat m.header.signers).toNat = _ := UInt8.toNat_ofNat_of_lt' h.signers
  have hreadonly : (UInt8.ofNat m.header.readonlySigners).toNat = _ :=
    UInt8.toNat_ofNat_of_lt' h.readonlySigners
  have hothers : (UInt8.ofNat m.header.readonlyOthers).toNat = _ :=
    UInt8.toNat_ofNat_of_lt' h.readonlyOthers
  -- what stands behind the key table, and behind the block hash
  let tail := compactLength m.instructions.length ++ (m.instructions.flatMap (·.bytes) ++ rest)
  have hkeys := readList?_append (·.bytes) h.keys (fun a _ => a.read?_bytes)
    (m.blockhash.bytes ++ tail)
  have hhash := takeExactly?_append m.blockhash.bytes tail
  rw [m.blockhash.size] at hhash
  have hofBytes : Blockhash.ofBytes? m.blockhash.bytes = some m.blockhash :=
    dif_pos m.blockhash.size
  have hinstructions := readList?_append (·.bytes) h.instructions
    (fun i hi => CompiledInstruction.read?_bytes (h.instruction i hi)) rest
  simp only [Message.bytes, Header.bytes, List.cons_append, List.nil_append, List.append_assoc,
    Message.read?, readByte?, Option.bind_eq_bind, Option.bind_some, hkeys, hhash, hofBytes,
    hinstructions, hsigners, hreadonly, hothers, tail]
  rfl

/-! ## Transactions -/

/-- Every number of a transaction fits the bytes that it is written in, as does every signature. -/
structure Transaction.Encodable (t : Transaction) : Prop where
  signatures : t.signatures.length < 0x10000
  signature : ∀ s ∈ t.signatures, s.length = signatureSize
  message : t.message.Encodable

/-- The bytes of a transaction are read as that transaction, to the last byte. -/
theorem Transaction.parse?_bytes {t : Transaction} (h : t.Encodable) :
    Transaction.parse? t.bytes = some t := by
  have hsignature : ∀ s ∈ t.signatures, ∀ rest,
      takeExactly? signatureSize (id s ++ rest) = some (s, rest) := by
    intro s hs rest
    rw [← h.signature s hs]
    exact takeExactly?_append s rest
  have hsignatures := readList?_append id h.signatures hsignature t.message.bytes
  have hmessage := Message.read?_bytes h.message []
  rw [List.append_nil] at hmessage
  rw [List.flatMap_id] at hsignatures
  simp only [Transaction.bytes, List.append_assoc, Transaction.parse?, hsignatures,
    Option.bind_eq_bind, Option.bind_some, hmessage]
  rfl

end StorageAgent
