import StorageAgent.Proofs.Address.Bump

/-!
# Derivations kept apart

Seeds are hashed one behind the other, with nothing to tell where one ends. The derivations of the
agent program are still kept apart: each kind of account has its tag in front and a length of its
own, and within a kind all parts have a fixed width. So two accounts never have a string in common
that is hashed for both, and one address for both is a collision of SHA-256.

* `Account.preimage_inj`: what is hashed for an account tells the account and the bump.
* `bytes_of_find`: an address that was found is the digest of what was hashed for it.
* `Account.separated`: accounts with one address make a collision.
-/
namespace StorageAgent

theorem Bytes.length_ofNatBE (width n : Nat) : (ofNatBE width n).length = width := by
  rw [ofNatBE, List.length_reverse, length_ofNatLE]

theorem Crypto.Sha256.length_hash (message : Bytes) : (hash message).length = 32 := by
  simp only [hash, List.flatMap_cons, List.flatMap_nil, List.length_append, List.length_nil,
    Bytes.length_ofNatBE]

namespace Address

/-- A digest has the size of an address, so nothing is cut off or padded. -/
theorem bytes_hashed (seeds : List Bytes) (program : Address) :
    (hashed seeds program).bytes = Crypto.Sha256.hash (preimage seeds program) := by
  have hsize := Crypto.Sha256.length_hash (preimage seeds program)
  show Bytes.padRight addressSize ((Crypto.Sha256.hash (preimage seeds program)).take addressSize) = _
  generalize Crypto.Sha256.hash (preimage seeds program) = digest at hsize
  have htake : digest.take addressSize = digest := List.take_of_length_le (Nat.le_of_eq hsize)
  rw [htake, Bytes.padRight, hsize]
  exact List.append_nil digest

/-- An address that was found is the digest of what was hashed with its bump. -/
theorem bytes_of_find {seeds : List Bytes} {program : Address} {found : Derived}
    (h : find seeds program = .ok found) :
    found.address.bytes = Crypto.Sha256.hash (preimage (seeds ++ [[found.bump]]) program) := by
  obtain ⟨-, -, haddress, -⟩ := find_eq_ok_iff.1 h
  rw [(offCurve?_eq_some_iff.1 haddress).1, bytes_hashed]

theorem bytes_inj {a b : Address} (h : a.bytes = b.bytes) : a = b := by
  cases a
  cases b
  cases h
  rfl

/-- What is hashed ends with the program, whatever the seeds are. -/
theorem preimage_inj {seeds₁ seeds₂ : List Bytes} {program₁ program₂ : Address}
    (h : preimage seeds₁ program₁ = preimage seeds₂ program₂) :
    seeds₁.flatten = seeds₂.flatten ∧ program₁ = program₂ := by
  have hmarked := List.append_cancel_right h
  have hsize : program₁.bytes.length = program₂.bytes.length := by
    rw [program₁.size, program₂.size]
  obtain ⟨hseeds, hprogram⟩ := List.append_inj' hmarked hsize
  exact ⟨hseeds, bytes_inj hprogram⟩

/-! ## The accounts of the program -/

/-- An account of the agent program. -/
inductive Account where
  | bookkeeper (program : Address)
  | request (program caller : Address)
  deriving DecidableEq

namespace Account

/-- The program that owns an account. -/
def program : Account → Address
  | bookkeeper program => program
  | request program _ => program

/-- The seeds of an account, without the bump. -/
def seeds : Account → List Bytes
  | bookkeeper _ => [bookkeeperSeed]
  | request _ caller => [requestSeed, caller.bytes]

/-- The address of an account. -/
def derive : Account → Except DerivationFault Derived
  | bookkeeper program => Address.bookkeeper program
  | request program caller => requestAccount program caller

/-- What is hashed for an account and a bump. -/
def preimage (account : Account) (bump : UInt8) : Bytes :=
  Address.preimage (account.seeds ++ [[bump]]) account.program

theorem derive_eq (account : Account) : account.derive = find account.seeds account.program := by
  cases account with
  | bookkeeper program => rw [derive, seeds, Account.program, Address.bookkeeper]
  | request program caller => rw [derive, seeds, Account.program, requestAccount]

/-- The tag, the caller if there is one, and the bump. -/
def tagged : Account → UInt8 → Bytes
  | bookkeeper _, bump => bookkeeperSeed ++ [bump]
  | request _ caller, bump => requestSeed ++ (caller.bytes ++ [bump])

theorem flatten_seeds (account : Account) (bump : UInt8) :
    (account.seeds ++ [[bump]]).flatten = account.tagged bump := by
  cases account with
  | bookkeeper program => simp [seeds, tagged]
  | request program caller => simp [seeds, tagged]

/-- The kind of an account can be told from a length. -/
theorem length_tagged (account : Account) (bump : UInt8) :
    (account.tagged bump).length =
      match account with
      | bookkeeper _ => 11
      | request _ _ => 40 := by
  cases account with
  | bookkeeper program =>
    have hseed : bookkeeperSeed.length = 10 := rfl
    simp [tagged, hseed]
  | request program caller =>
    have hseed : requestSeed.length = 7 := rfl
    have hsize : caller.bytes.length = 32 := caller.size
    simp [tagged, hseed, hsize]

theorem tagged_inj {account₁ account₂ : Account} {bump₁ bump₂ : UInt8}
    (hprogram : account₁.program = account₂.program)
    (h : account₁.tagged bump₁ = account₂.tagged bump₂) : account₁ = account₂ ∧ bump₁ = bump₂ := by
  have hlength := congrArg List.length h
  rw [length_tagged, length_tagged] at hlength
  cases account₁ with
  | bookkeeper program₁ =>
    cases account₂ with
    | bookkeeper program₂ =>
      have hbump := List.append_cancel_left h
      cases hprogram
      cases hbump
      exact ⟨rfl, rfl⟩
    | request program₂ caller₂ => cases hlength
  | request program₁ caller₁ =>
    cases account₂ with
    | bookkeeper program₂ => cases hlength
    | request program₂ caller₂ =>
      have hsize : caller₁.bytes.length = caller₂.bytes.length := by
        rw [caller₁.size, caller₂.size]
      obtain ⟨hcaller, hbump⟩ := List.append_inj (List.append_cancel_left h) hsize
      cases hprogram
      cases hbump
      rw [bytes_inj hcaller]
      exact ⟨rfl, rfl⟩

/-- What is hashed for an account tells the account and the bump. -/
theorem preimage_inj {account₁ account₂ : Account} {bump₁ bump₂ : UInt8}
    (h : account₁.preimage bump₁ = account₂.preimage bump₂) :
    account₁ = account₂ ∧ bump₁ = bump₂ := by
  obtain ⟨hseeds, hprogram⟩ := Address.preimage_inj h
  rw [flatten_seeds, flatten_seeds] at hseeds
  exact tagged_inj hprogram hseeds

/-- Nothing is hashed for two accounts. If both have the same address, the strings that were hashed
for it are different and have the same digest. -/
theorem separated {account₁ account₂ : Account} (h : account₁ ≠ account₂) :
    (∀ bump₁ bump₂, account₁.preimage bump₁ ≠ account₂.preimage bump₂) ∧
    ∀ found₁ found₂, account₁.derive = .ok found₁ → account₂.derive = .ok found₂ →
      found₁.address = found₂.address →
        account₁.preimage found₁.bump ≠ account₂.preimage found₂.bump ∧
        Crypto.Sha256.hash (account₁.preimage found₁.bump) =
          Crypto.Sha256.hash (account₂.preimage found₂.bump) := by
  have hdiffer : ∀ bump₁ bump₂, account₁.preimage bump₁ ≠ account₂.preimage bump₂ := by
    intro bump₁ bump₂ hsame
    exact h (preimage_inj hsame).1
  refine ⟨hdiffer, ?_⟩
  intro found₁ found₂ hfound₁ hfound₂ haddress
  refine ⟨hdiffer _ _, ?_⟩
  rw [derive_eq] at hfound₁ hfound₂
  have hdigest₁ := bytes_of_find hfound₁
  have hdigest₂ := bytes_of_find hfound₂
  rw [haddress] at hdigest₁
  exact hdigest₁.symm.trans hdigest₂

/-- Two callers of one program, whatever the bumps are. -/
theorem separated_callers :
    request Sample.program (.ofNat 1) ≠ request Sample.program (.ofNat 2) ∧
      ∀ bump₁ bump₂, (request Sample.program (.ofNat 1)).preimage bump₁ ≠
        (request Sample.program (.ofNat 2)).preimage bump₂ := by
  have hdiffer : request Sample.program (.ofNat 1) ≠ request Sample.program (.ofNat 2) := by decide
  exact ⟨hdiffer, (separated hdiffer).1⟩

end Account
end Address
end StorageAgent
