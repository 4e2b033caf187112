import StorageAgent.Proofs.Envelope.Assembled

/-!
# The bump of a derived address

The bump is searched downwards, so what is found is the address of the greatest bump that is off the
curve. A single derivation with this bump gives the same address, and one with any greater bump
gives none. The bump takes a seed's place: the search takes one seed less than a single derivation.

* `checkSeeds_eq_ok_iff`, `checkSeeds_eq_error_iff`: which seeds are refused, and why.
* `greatest_eq_some_iff`: what a search from some bump downwards finds.
* `find_eq_ok_iff`: which address is found.
* `find_canonical`: how the search and single derivations fit together.
-/
namespace StorageAgent.Address

variable {seeds : List Bytes} {program a : Address} {found : Derived} {limit : Nat}

/-! ## Seeds -/

/-- Seeds that are few and short enough. -/
structure Admitted (limit : Nat) (seeds : List Bytes) : Prop where
  count : seeds.length ≤ limit
  size : ∀ s ∈ seeds, s.length ≤ 32

/-- Why seeds are refused: there are too many, or this one is the first that is too long. -/
inductive Refused (limit : Nat) (seeds : List Bytes) : DerivationFault → Prop where
  | count (h : limit < seeds.length) : Refused limit seeds (.tooManySeeds limit seeds.length)
  | size {earlier later : List Bytes} {s : Bytes} (hcount : seeds.length ≤ limit)
      (hseeds : seeds = earlier ++ s :: later) (hs : 32 < s.length)
      (hearlier : ∀ s ∈ earlier, s.length ≤ 32) : Refused limit seeds (.seedTooLong s)

theorem not_tooLong_iff {s : Bytes} : (!decide (seedLimit < s.length)) = true ↔ s.length ≤ 32 := by
  rw [Bool.not_eq_true', decide_eq_false_iff_not, Nat.not_lt]
  rfl

theorem checkSeeds_eq_ok_iff : checkSeeds limit seeds = .ok () ↔ Admitted limit seeds := by
  unfold checkSeeds
  by_cases hcount : limit < seeds.length
  · rw [if_pos hcount]
    constructor
    · exact nofun
    · intro h
      have := h.count
      omega
  · rw [if_neg hcount]
    have hnone : (∀ s ∈ seeds, s.length ≤ 32) ↔
        seeds.find? (fun seed => decide (seedLimit < seed.length)) = none := by
      simp only [List.find?_eq_none, ← Bool.not_eq_true', Bool.not_eq_true, not_tooLong_iff]
    cases hfind : seeds.find? (fun seed => decide (seedLimit < seed.length)) with
    | none => exact ⟨fun _ => ⟨by omega, hnone.2 hfind⟩, fun _ => rfl⟩
    | some s =>
      constructor
      · exact nofun
      · intro h
        rw [hnone.1 h.size] at hfind
        cases hfind

theorem checkSeeds_eq_error_iff {fault : DerivationFault} :
    checkSeeds limit seeds = .error fault ↔ Refused limit seeds fault := by
  unfold checkSeeds
  constructor
  · intro h
    split at h
    · next hcount =>
      cases h
      exact .count hcount
    · next hcount =>
      split at h
      · next s hfind =>
        cases h
        obtain ⟨hs, earlier, later, hseeds, hearlier⟩ := List.find?_eq_some_iff_append.1 hfind
        refine .size (Nat.le_of_not_lt hcount) hseeds (of_decide_eq_true hs) ?_
        intro s hs
        exact not_tooLong_iff.1 (hearlier s hs)
      · cases h
  · intro h
    cases h with
    | count hcount => rw [if_pos hcount]
    | @size earlier later s hcount hseeds hs hearlier =>
      have hfind : seeds.find? (fun seed => decide (seedLimit < seed.length)) = some s := by
        refine List.find?_eq_some_iff_append.2 ⟨decide_eq_true hs, earlier, later, hseeds, ?_⟩
        intro s hs
        exact not_tooLong_iff.2 (hearlier s hs)
      rw [if_neg (Nat.not_lt.2 hcount), hfind]

/-- Seeds that are not admitted are refused. -/
theorem not_admitted_iff :
    ¬ Admitted limit seeds ↔ limit < seeds.length ∨ ∃ s ∈ seeds, 32 < s.length := by
  constructor
  · intro h
    by_cases hcount : limit < seeds.length
    · exact .inl hcount
    · by_cases hsize : ∃ s ∈ seeds, 32 < s.length
      · exact .inr hsize
      · refine absurd ⟨Nat.le_of_not_lt hcount, ?_⟩ h
        intro s hs
        exact Nat.le_of_not_lt fun hlong => hsize ⟨s, hs, hlong⟩
  · intro h hadmitted
    obtain hcount | ⟨s, hs, hlong⟩ := h
    · have := hadmitted.count
      omega
    · have := hadmitted.size s hs
      omega

/-- What begins with a check of the seeds fails with the reason why they are refused. -/
theorem exists_refused {α : Type} (h : ¬ Admitted limit seeds)
    (f : Unit → Except DerivationFault α) :
    ∃ fault, Refused limit seeds fault ∧ (checkSeeds limit seeds >>= f) = .error fault := by
  cases hcheck : checkSeeds limit seeds with
  | ok _ => exact absurd (checkSeeds_eq_ok_iff.1 hcheck) h
  | error fault => exact ⟨fault, checkSeeds_eq_error_iff.1 hcheck, rfl⟩

/-- The bump is one more seed, and a short one. -/
theorem Admitted.concat (h : Admitted limit seeds) (bump : UInt8) :
    Admitted (limit + 1) (seeds ++ [[bump]]) := by
  refine ⟨?_, ?_⟩
  · have := h.count
    simp only [List.length_append, List.length_cons, List.length_nil]
    omega
  · intro s hs
    simp only [List.mem_append, List.mem_singleton] at hs
    obtain hs | hs := hs
    · exact h.size s hs
    · rw [hs]
      show 1 ≤ 32
      decide

/-! ## Single derivations -/

theorem offCurve?_eq_some_iff :
    offCurve? seeds program = some a ↔
      a = hashed seeds program ∧ Crypto.Ed25519.isPoint a.bytes = false := by
  unfold offCurve?
  generalize hashed seeds program = digest
  show (if Crypto.Ed25519.isPoint digest.bytes = true then none else some digest) = some a ↔ _
  by_cases hpoint : Crypto.Ed25519.isPoint digest.bytes = true
  · rw [if_pos hpoint]
    constructor
    · exact nofun
    · intro ⟨ha, hoff⟩
      rw [ha, hpoint] at hoff
      cases hoff
  · rw [if_neg hpoint, Option.some.injEq]
    constructor
    · intro ha
      rw [← ha]
      exact ⟨rfl, Bool.eq_false_iff.2 hpoint⟩
    · intro ⟨ha, _⟩
      exact ha.symm

theorem atSeeds_of_admitted (h : Admitted 16 seeds) :
    atSeeds seeds program = .ok (offCurve? seeds program) := by
  have hcheck : checkSeeds seedCount seeds = .ok () := checkSeeds_eq_ok_iff.2 h
  rw [atSeeds, hcheck]
  rfl

theorem atSeeds_of_not_admitted (h : ¬ Admitted 16 seeds) :
    ∃ fault, Refused 16 seeds fault ∧ atSeeds seeds program = .error fault :=
  exists_refused h _

/-! ## The search -/

theorem toNat_first {n : Nat} (hn : n + 1 < 256) : (UInt8.ofNat (n + 1)).toNat = n + 1 := by
  rw [UInt8.toNat_ofNat']
  omega

theorem first_ne_zero {n : Nat} (hn : n + 1 < 256) : UInt8.ofNat (n + 1) ≠ 0 := by
  intro hzero
  have htop := toNat_first hn
  rw [hzero] at htop
  cases htop

/-- A bump up to `n + 1` is the first one that is tried, or it is tried later. -/
theorem first_or_later {n : Nat} (hn : n + 1 < 256) {bump : UInt8} (h : bump.toNat ≤ n + 1) :
    bump = UInt8.ofNat (n + 1) ∨ bump.toNat ≤ n := by
  by_cases heq : bump.toNat = n + 1
  · exact .inl (UInt8.toNat_inj.1 (heq.trans (toNat_first hn).symm))
  · exact .inr (by omega)

/-- The greatest bump up to `n` that has an address, and this address. The bump 0 does not count. -/
structure Topmost (address? : UInt8 → Option Address) (n : Nat) (found : Derived) : Prop where
  ne_zero : found.bump ≠ 0
  le : found.bump.toNat ≤ n
  address : address? found.bump = some found.address
  above : ∀ bump, found.bump < bump → bump.toNat ≤ n → address? bump = none

section
variable {address? : UInt8 → Option Address} {n : Nat}

/-- If the first bump has an address, this is what is found. -/
theorem topmost_of_first (hn : n + 1 < 256) (h : address? (UInt8.ofNat (n + 1)) = some a) :
    Topmost address? (n + 1) found ↔ found = ⟨a, UInt8.ofNat (n + 1)⟩ := by
  have htop : (UInt8.ofNat (n + 1)).toNat = n + 1 := toNat_first hn
  constructor
  · intro htopmost
    obtain hfirst | hlater := first_or_later hn htopmost.le
    · have haddress := htopmost.address
      rw [hfirst, h, Option.some.injEq] at haddress
      cases found
      cases hfirst
      cases haddress
      rfl
    · have hlt : found.bump < UInt8.ofNat (n + 1) := by
        rw [UInt8.lt_iff_toNat_lt, htop]
        omega
      have hnone := htopmost.above _ hlt (Nat.le_of_eq htop)
      rw [h] at hnone
      cases hnone
  · intro hfound
    subst hfound
    refine ⟨?_, Nat.le_of_eq htop, h, ?_⟩
    · exact first_ne_zero hn
    · intro bump hlt hle
      rw [UInt8.lt_iff_toNat_lt, htop] at hlt
      omega

/-- If the first bump has no address, it does not count. -/
theorem topmost_of_later (hn : n + 1 < 256) (h : address? (UInt8.ofNat (n + 1)) = none) :
    Topmost address? (n + 1) found ↔ Topmost address? n found := by
  constructor
  · intro htopmost
    obtain hfirst | hlater := first_or_later hn htopmost.le
    · have haddress := htopmost.address
      rw [hfirst, h] at haddress
      cases haddress
    · refine ⟨htopmost.ne_zero, hlater, htopmost.address, ?_⟩
      intro bump hlt hle
      exact htopmost.above bump hlt (Nat.le_succ_of_le hle)
  · intro htopmost
    refine ⟨htopmost.ne_zero, Nat.le_succ_of_le htopmost.le, htopmost.address, ?_⟩
    intro bump hlt hle
    obtain hfirst | hlater := first_or_later hn hle
    · rw [hfirst]
      exact h
    · exact htopmost.above bump hlt hlater

/-- A search downwards finds the greatest bump that has an address. -/
theorem greatest_eq_some_iff (hn : n < 256) :
    greatest address? n = some found ↔ Topmost address? n found := by
  induction n with
  | zero =>
    constructor
    · exact nofun
    · intro h
      refine absurd (UInt8.toNat_inj.1 ?_) h.ne_zero
      exact Nat.le_zero.1 h.le
  | succ n ih =>
    cases hfirst : address? (UInt8.ofNat (n + 1)) with
    | some a =>
      rw [topmost_of_first hn hfirst]
      simp only [greatest, hfirst, Option.some.injEq]
      exact eq_comm
    | none =>
      rw [topmost_of_later hn hfirst, ← ih (Nat.lt_of_succ_lt hn)]
      simp only [greatest, hfirst]

/-- A search finds nothing only if no bump has an address. -/
theorem greatest_eq_none_iff (hn : n < 256) :
    greatest address? n = none ↔
      ∀ bump, bump ≠ 0 → bump.toNat ≤ n → address? bump = none := by
  induction n with
  | zero =>
    refine ⟨?_, fun _ => rfl⟩
    intro _ bump hzero hle
    exact absurd (UInt8.toNat_inj.1 (Nat.le_zero.1 hle)) hzero
  | succ n ih =>
    cases hfirst : address? (UInt8.ofNat (n + 1)) with
    | some a =>
      simp only [greatest, hfirst, reduceCtorEq, false_iff]
      intro hnone
      rw [hnone _ (first_ne_zero hn) (Nat.le_of_eq (toNat_first hn))] at hfirst
      cases hfirst
    | none =>
      simp only [greatest, hfirst]
      rw [ih (Nat.lt_of_succ_lt hn)]
      constructor
      · intro h bump hzero hle
        obtain heq | hlater := first_or_later hn hle
        · rw [heq]
          exact hfirst
        · exact h bump hzero hlater
      · intro h bump hzero hle
        exact h bump hzero (Nat.le_succ_of_le hle)

end

/-- The address of the greatest bump that is off the curve is found. -/
theorem find_eq_ok_iff :
    find seeds program = .ok found ↔
      Admitted 15 seeds ∧ found.bump ≠ 0 ∧
        offCurve? (seeds ++ [[found.bump]]) program = some found.address ∧
        ∀ bump, found.bump < bump → offCurve? (seeds ++ [[bump]]) program = none := by
  have hle : ∀ bump : UInt8, bump.toNat ≤ 255 := fun bump => Nat.le_of_lt_succ bump.toNat_lt
  have hsearch : search seeds program 255 = some found ↔ found.bump ≠ 0 ∧
      offCurve? (seeds ++ [[found.bump]]) program = some found.address ∧
      ∀ bump, found.bump < bump → offCurve? (seeds ++ [[bump]]) program = none := by
    rw [search, greatest_eq_some_iff (by decide)]
    constructor
    · intro h
      exact ⟨h.ne_zero, h.address, fun bump hlt => h.above bump hlt (hle bump)⟩
    · intro ⟨hzero, haddress, habove⟩
      exact ⟨hzero, hle _, haddress, fun bump hlt _ => habove bump hlt⟩
  rw [← hsearch, ← checkSeeds_eq_ok_iff]
  constructor
  · intro h
    obtain ⟨_, hcheck, h⟩ := bind_eq_ok_iff.1 h
    refine ⟨hcheck, ?_⟩
    generalize search seeds program 255 = result at h ⊢
    cases result with
    | none => cases h
    | some result =>
      cases h
      rfl
  · intro ⟨hcheck, hfound⟩
    exact find_of_search hcheck hfound

theorem find_of_not_admitted (h : ¬ Admitted 15 seeds) :
    ∃ fault, Refused 15 seeds fault ∧ find seeds program = .error fault :=
  exists_refused h _

/-- Where the seeds are admitted, an address is found if any bump but 0 is off the curve. -/
theorem exists_find_iff (h : Admitted 15 seeds) :
    (∃ found, find seeds program = .ok found) ↔
      ∃ bump, bump ≠ 0 ∧ offCurve? (seeds ++ [[bump]]) program ≠ none := by
  constructor
  · intro ⟨found, hfound⟩
    obtain ⟨-, hzero, haddress, -⟩ := find_eq_ok_iff.1 hfound
    refine ⟨found.bump, hzero, ?_⟩
    rw [haddress]
    exact Option.some_ne_none _
  · intro ⟨bump, hzero, hoff⟩
    cases hsearch : search seeds program 255 with
    | some found => exact ⟨found, find_of_search (checkSeeds_eq_ok_iff.2 h) hsearch⟩
    | none =>
      rw [search, greatest_eq_none_iff (by decide)] at hsearch
      exact absurd (hsearch bump hzero (Nat.le_of_lt_succ bump.toNat_lt)) hoff

/-! ## The search and single derivations -/

/-- Too many seeds and too long ones are refused by the search and by single derivations, the search
having one seed less. What is found is what a single derivation with its bump gives; it is off the
curve, and every greater bump hits the curve. Nothing is found only if all bumps but 0 do. -/
theorem find_canonical (seeds : List Bytes) (program : Address) :
    (15 < seeds.length ∨ (∃ s ∈ seeds, 32 < s.length) →
      ∃ fault, Refused 15 seeds fault ∧ find seeds program = .error fault) ∧
    (∀ found, find seeds program = .ok found →
      atSeeds (seeds ++ [[found.bump]]) program = .ok (some found.address) ∧
      Crypto.Ed25519.isPoint found.address.bytes = false ∧
      ∀ bump, found.bump < bump → atSeeds (seeds ++ [[bump]]) program = .ok none) ∧
    (¬ (15 < seeds.length ∨ ∃ s ∈ seeds, 32 < s.length) →
      ((∃ found, find seeds program = .ok found) ↔
        ∃ bump, bump ≠ 0 ∧ atSeeds (seeds ++ [[bump]]) program ≠ .ok none)) ∧
    ((∃ fault, atSeeds seeds program = .error fault) ↔
      16 < seeds.length ∨ ∃ s ∈ seeds, 32 < s.length) := by
  have hbumped : Admitted 15 seeds → ∀ bump, atSeeds (seeds ++ [[bump]]) program =
      .ok (offCurve? (seeds ++ [[bump]]) program) := by
    intro hadmitted bump
    exact atSeeds_of_admitted (hadmitted.concat bump)
  refine ⟨?_, ?_, ?_, ?_⟩
  · intro h
    exact find_of_not_admitted (not_admitted_iff.2 h)
  · intro found hfound
    obtain ⟨hadmitted, -, haddress, hgreater⟩ := find_eq_ok_iff.1 hfound
    refine ⟨?_, (offCurve?_eq_some_iff.1 haddress).2, ?_⟩
    · rw [hbumped hadmitted, haddress]
    · intro bump hlt
      rw [hbumped hadmitted, hgreater bump hlt]
  · intro h
    have hadmitted : Admitted 15 seeds := Classical.byContradiction fun hnot =>
      h (not_admitted_iff.1 hnot)
    rw [exists_find_iff hadmitted]
    simp only [hbumped hadmitted, ne_eq, Except.ok.injEq]
  · rw [← not_admitted_iff]
    constructor
    · intro ⟨fault, hfault⟩ hadmitted
      rw [atSeeds_of_admitted hadmitted] at hfault
      cases hfault
    · intro h
      have hrefused : ∃ fault, Refused 16 seeds fault ∧ atSeeds seeds program = .error fault :=
        atSeeds_of_not_admitted h
      obtain ⟨fault, -, hfault⟩ := hrefused
      exact ⟨fault, hfault⟩

/-- The bookkeeper of the sample is found at the bump 254, so at 255 the curve is hit. -/
theorem find_canonical_bookkeeper :
    find [bookkeeperSeed] Sample.program = .ok ⟨Sample.bookkeeper, 254⟩ ∧
      atSeeds [bookkeeperSeed, [254]] Sample.program = .ok (some Sample.bookkeeper) ∧
      Crypto.Ed25519.isPoint Sample.bookkeeper.bytes = false ∧
      atSeeds [bookkeeperSeed, [255]] Sample.program = .ok none := by
  have hfound : find [bookkeeperSeed] Sample.program = .ok ⟨Sample.bookkeeper, 254⟩ :=
    find_of_search rfl Sample.search_eq
  obtain ⟨haddress, hoff, hgreater⟩ :=
    (find_canonical [bookkeeperSeed] Sample.program).2.1 _ hfound
  exact ⟨hfound, haddress, hoff, hgreater 255 (by decide)⟩

end StorageAgent.Address
