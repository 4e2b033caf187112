import StorageAgent.Proofs.Confirmation.Deadline

/-!
# Asking for less

A status that reaches a level reaches each lower one. So if two pollings differ in their level alone,
then they ask the same questions at the same times, up to the poll at which the lower level is
reached. The one that asks for less ends there and has its confirmation, whatever the other goes
through behind it.

* `Sooner`: two runs are the same, or the first has its confirmation after no more polls.
* `confirmed_of_rank_le`: who asks for less is confirmed whenever the other is, and as soon.
-/
namespace StorageAgent

open Behaviour

theorem SignatureStatus.reaches_of_rank_le {status : SignatureStatus} {c₁ c₂ : Commitment}
    (hrank : c₁.rank ≤ c₂.rank) (h : status.reaches c₂ = true) : status.reaches c₁ = true := by
  unfold reaches at h ⊢
  split at h
  · -- without a level, all is reached but the highest level
    split at h
    · next hnull => rw [if_pos hnull]
    · next hnull =>
      rw [if_neg hnull]
      refine decide_eq_true fun hhighest => of_decide_eq_true h ?_
      rw [hhighest] at hrank
      cases c₂ with
      | finalized => rfl
      | _ => exact absurd hrank (by decide)
  · split at h
    · exact decide_eq_true (hrank.trans (of_decide_eq_true h))
    · cases h
  · cases h

namespace World

variable {τ α β : Type} {w : World τ} {h : Dialogue.History τ}

/-! ## Computations one behind the other -/

theorem run_bind_ok {x : ExceptT Failure (StateM (Dialogue.History τ)) α}
    {f : α → ExceptT Failure (StateM (Dialogue.History τ)) β} {a : α} {h' : Dialogue.History τ}
    (hx : x.run h = (.ok a, h')) : (x >>= f).run h = (f a).run h' := by
  change ExceptT.bindCont f (x.run h).1 (x.run h).2 = _
  rw [hx]
  rfl

theorem run_bind_error {x : ExceptT Failure (StateM (Dialogue.History τ)) α}
    {f : α → ExceptT Failure (StateM (Dialogue.History τ)) β} {e : Failure}
    {h' : Dialogue.History τ} (hx : x.run h = (.error e, h')) :
    (x >>= f).run h = (.error e, h') := by
  change ExceptT.bindCont f (x.run h).1 (x.run h).2 = _
  rw [hx]
  rfl

/-- A computation takes no poll back. -/
def Onward (x : ExceptT Failure (StateM (Dialogue.History τ)) α) : Prop :=
  ∀ h, Dialogue.polls h ≤ Dialogue.polls (x.run h).2

theorem Renders.onward {x : ExceptT Failure (StateM (Dialogue.History τ)) α}
    {y : ExceptT Failure (Behaviour (Dialogue.Event τ)) α} (hx : w.Renders x y) : Onward x := by
  intro h
  obtain ⟨t, ht, -⟩ := hx h
  rw [ht, Confirmation.polls_append]
  exact Nat.le_add_right _ _

theorem Onward.pure (a : α) : Onward (τ := τ) (pure a) := fun _ => le_refl _

theorem Onward.le_bind {x : ExceptT Failure (StateM (Dialogue.History τ)) α}
    {f : α → ExceptT Failure (StateM (Dialogue.History τ)) β} (hf : ∀ a, Onward (f a)) :
    Dialogue.polls (x.run h).2 ≤ Dialogue.polls ((x >>= f).run h).2 := by
  obtain ⟨r, h', hrun⟩ : ∃ r h', x.run h = (r, h') := ⟨_, _, rfl⟩
  cases r with
  | ok a =>
    rw [run_bind_ok hrun, hrun]
    exact hf a h'
  | error e => rw [run_bind_error hrun, hrun]

theorem Onward.bind {x : ExceptT Failure (StateM (Dialogue.History τ)) α}
    {f : α → ExceptT Failure (StateM (Dialogue.History τ)) β} (hx : Onward x)
    (hf : ∀ a, Onward (f a)) : Onward (x >>= f) :=
  fun h => (hx h).trans (le_bind hf)

/-! ## Two runs -/

/-- Two runs are the same, or the first has what counts, and after no more polls than the second. -/
def Sooner (Counts : α → Prop) (run₁ run₂ : Except Failure α × Dialogue.History τ) : Prop :=
  run₁ = run₂ ∨
    ∃ a, run₁.1 = .ok a ∧ Counts a ∧ Dialogue.polls run₁.2 ≤ Dialogue.polls run₂.2

namespace Sooner

variable {Counted : α → Prop} {Counts : β → Prop}
  {x₁ x₂ : ExceptT Failure (StateM (Dialogue.History τ)) α}
  {f₁ f₂ : α → ExceptT Failure (StateM (Dialogue.History τ)) β}

/-- Behind the same run there is the same history, and so the same answer to the next question. -/
theorem behind (hx : x₁.run h = x₂.run h)
    (hf : ∀ a h', Sooner Counts ((f₁ a).run h') ((f₂ a).run h')) :
    Sooner Counts ((x₁ >>= f₁).run h) ((x₂ >>= f₂).run h) := by
  obtain ⟨r, h', hrun⟩ : ∃ r h', x₁.run h = (r, h') := ⟨_, _, rfl⟩
  rw [hrun] at hx
  cases r with
  | ok a =>
    rw [run_bind_ok hrun, run_bind_ok hx.symm]
    exact hf a h'
  | error e =>
    rw [run_bind_error hrun, run_bind_error hx.symm]
    exact .inl rfl

/-- What counts before counts behind too, where nothing more is done with it. -/
theorem bind (hx : Sooner Counted (x₁.run h) (x₂.run h))
    (hf : ∀ a h', Sooner Counts ((f₁ a).run h') ((f₂ a).run h'))
    (hcounts : ∀ a, Counted a → ∃ b, f₁ a = pure b ∧ Counts b) (honward : ∀ a, Onward (f₂ a)) :
    Sooner Counts ((x₁ >>= f₁).run h) ((x₂ >>= f₂).run h) := by
  obtain hsame | ⟨a, ha, hcounted, hpolls⟩ := hx
  · exact behind hsame hf
  · obtain ⟨h', hrun⟩ : ∃ h', x₁.run h = (.ok a, h') := ⟨_, Prod.ext ha rfl⟩
    obtain ⟨b, hb, hcount⟩ := hcounts a hcounted
    rw [hrun] at hpolls
    rw [run_bind_ok hrun, hb]
    exact .inr ⟨b, rfl, hcount, hpolls.trans (Onward.le_bind honward)⟩

end Sooner

/-! ## Two levels -/

section
open Confirmation

variable {c₁ c₂ : Commitment} {polling : Polling τ} {signature limit : Json}

/-- Polling ends with the confirmation. -/
def EndsConfirmed (result : Except Failure Outcome) : Prop :=
  ∃ o, result = .ok o ∧ o.verdict = .confirmed

instance : DecidablePred EndsConfirmed
  | .ok o => decidable_of_iff (o.verdict = .confirmed) <| by simp [EndsConfirmed]
  | .error f => .isFalse <| by simp [EndsConfirmed]

/-- What a poll says if it confirms. -/
def Confirming (outcome : Option Outcome) : Prop := ∃ o, outcome = some o ∧ o.verdict = .confirmed

theorem sooner_decided (hrank : c₁.rank ≤ c₂.rank) (status : SignatureStatus)
    (h : Dialogue.History τ) : Sooner Confirming ((decided w.host c₁ signature status).run h)
      ((decided w.host c₂ signature status).run h) := by
  have honward : Onward (decided w.host c₂ signature status) := (renders_decided status).onward
  cases hf : status.failed with
  | true =>
    simp only [decided, hf, if_true]
    exact .inl rfl
  | false =>
    cases hr : status.reaches c₁ with
    | true =>
      obtain ⟨o, line, hv, hrun⟩ : ∃ o line, o.verdict = .confirmed ∧
          (decided w.host c₁ signature status).run h =
            (.ok (some o), h ++ [.host (.logged line)]) := by
        simp only [decided, hf, hr]
        exact ⟨_, _, rfl, rfl⟩
      have hpolls : Dialogue.polls (h ++ [.host (.logged line)]) = Dialogue.polls h := polls_append _ _
      refine .inr ⟨_, congrArg Prod.fst hrun, ⟨o, rfl, hv⟩, ?_⟩
      rw [hrun, hpolls]
      exact honward h
    | false =>
      have hr₂ : status.reaches c₂ = false :=
        Bool.eq_false_of_not_eq_true fun hreached =>
          Bool.false_ne_true (hr.symm.trans (status.reaches_of_rank_le hrank hreached))
      simp only [decided, hf, hr, hr₂]
      exact .inl rfl

theorem sooner_poll (hrank : c₁.rank ≤ c₂.rank) (h : Dialogue.History τ) :
    Sooner Confirming ((poll w.host w.ledger c₁ signature limit).run h)
      ((poll w.host w.ledger c₂ signature limit).run h) := by
  refine .behind rfl fun answer h' => ?_
  split
  · exact .inl rfl
  · exact sooner_decided hrank _ _
  · exact .inl rfl

variable [Seconds τ]

/-- The rounds are the same up to the poll that reaches the lower level. -/
theorem sooner_pollFrom (hrank : c₁.rank ≤ c₂.rank) (start : τ) (rounds : Nat) (interval : τ)
    (h : Dialogue.History τ) : Sooner (fun o => o.verdict = .confirmed)
      ((pollFrom w.host w.ledger c₁ polling signature limit start rounds interval).run h)
      ((pollFrom w.host w.ledger c₂ polling signature limit start rounds interval).run h) := by
  induction rounds generalizing interval h with
  | zero => exact .inl rfl
  | succ rounds ih =>
    refine .behind rfl fun now h' => ?_
    split
    · exact .inl rfl
    refine .bind (sooner_poll hrank h') (fun outcome h' => ?_) ?_ (fun outcome => ?_)
    · split
      · exact .inl rfl
      · refine .behind rfl fun later h' => ?_
        dsimp only
        split
        · exact .inl rfl
        · exact .behind rfl fun _ h' => ih _ h'
    · -- the lower level ends with its confirmation
      rintro _ ⟨o, rfl, hv⟩
      exact ⟨o, rfl, hv⟩
    · -- and what the higher one does behind that poll can only add polls
      split
      · exact .pure _
      · refine .bind renders_now.onward fun later => ?_
        dsimp only
        split
        · exact renders_timedOut.onward
        · exact .bind (renders_sleep _).onward fun _ => (renders_pollFrom _ _).onward

/-- If polling for a level confirms a transaction, then polling for a lower one in the same world
confirms it too, after no more polls. -/
theorem confirmed_of_rank_le (hrank : c₁.rank ≤ c₂.rank)
    (hconfirmed : EndsConfirmed (run (await w.host w.ledger c₂ polling signature limit)).1) :
    EndsConfirmed (run (await w.host w.ledger c₁ polling signature limit)).1 ∧
      Dialogue.polls (run (await w.host w.ledger c₁ polling signature limit)).2 ≤
        Dialogue.polls (run (await w.host w.ledger c₂ polling signature limit)).2 := by
  have hsooner : Sooner (fun o => o.verdict = .confirmed)
      (run (await w.host w.ledger c₁ polling signature limit))
      (run (await w.host w.ledger c₂ polling signature limit)) :=
    .behind rfl fun start h' => sooner_pollFrom hrank start _ _ h'
  obtain hsame | ⟨o, ho, hv, hpolls⟩ := hsooner
  · rw [hsame]
    exact ⟨hconfirmed, le_refl _⟩
  · exact ⟨⟨o, ho, hv⟩, hpolls⟩

end

/-- A cluster has processed a transaction from the start, and confirms it after three seconds. -/
def confirmsLate : World ℚ :=
  .timeline 0 fun now =>
    some ⟨.int 7, .null, .text (if now < 3 then "processed" else "confirmed"), .null⟩

/-- Polling of this cluster for a level. -/
def awaitLevel (commitment : Commitment) : Except Failure Outcome × Dialogue.History ℚ :=
  run (Confirmation.await confirmsLate.host confirmsLate.ledger commitment (.every 60 1 5)
    (.text "signature") (.int 100))

/-- A transaction that is confirmed at the fourth poll is processed at the first. -/
theorem confirmed_of_rank_le_processed : Commitment.processed.rank ≤ Commitment.confirmed.rank ∧
    EndsConfirmed (awaitLevel .confirmed).1 ∧ EndsConfirmed (awaitLevel .processed).1 ∧
    Dialogue.polls (awaitLevel .confirmed).2 = 4 ∧ Dialogue.polls (awaitLevel .processed).2 = 1 := by
  have hrank : Commitment.processed.rank ≤ Commitment.confirmed.rank := by decide
  have hconfirmed : EndsConfirmed (awaitLevel .confirmed).1 := by decide +kernel
  exact ⟨hrank, hconfirmed, (confirmed_of_rank_le hrank hconfirmed).1, by decide +kernel,
    by decide +kernel⟩

end World
end StorageAgent
