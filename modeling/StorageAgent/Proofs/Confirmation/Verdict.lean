import StorageAgent.Proofs.Confirmation.Dialogue
import StorageAgent.Proofs.Endpoint.Answers

/-!
# How polling ends

Polling ends with the first answer that settles what became of a transaction, or when its time is
up. `Asked` says what a poll asks and what it makes of the answer, and `Awaited` that nothing but
the last poll, or the clock, ends the polling.
-/
namespace StorageAgent.Confirmation

open Behaviour

section
variable {ε τ : Type} {event : Host.Event τ → ε} {ledger : Ledger (Behaviour ε)}
  {commitment : Commitment} {polling : Polling τ} {signature limit : Json}

/-! ## One poll -/

/-- What is made of a status. -/
inductive Decided (commitment : Commitment) (signature : Json) (status : SignatureStatus) :
    Except Failure (Option Outcome) → Prop where
  | failed {o : Outcome} (hf : status.failed = true) (hs : o.signature = signature)
      (hv : o.verdict = .failed) : Decided commitment signature status (.ok (some o))
  | garbled {fault : PairFault} (hf : status.failed = true) :
      Decided commitment signature status (.error (.ofPairFault fault))
  | confirmed {o : Outcome} (hf : status.failed = false) (hr : status.reaches commitment = true)
      (hs : o.signature = signature) (hv : o.verdict = .confirmed) :
      Decided commitment signature status (.ok (some o))
  | pending (hf : status.failed = false) (hr : status.reaches commitment = false) :
      Decided commitment signature status (.ok none)

theorem decided_cases {status : SignatureStatus} {t : List ε} {r : Except Failure (Option Outcome)}
    (h : Run (decided (.free event) commitment signature status) t r) :
    Decided commitment signature status r := by
  rw [decided] at h
  cases hf : status.failed with
  | true =>
    rw [if_pos hf, Rejection.ofTransactionError] at h
    cases he : TransactionError.ofJson status.err with
    | error fault =>
      rw [he] at h
      obtain ⟨-, rfl⟩ := run_throw_bind.1 h
      exact .garbled hf
    | ok e =>
      rw [he] at h
      obtain ⟨_, _, _, ⟨rfl, hr⟩, h₂, rfl⟩ | ⟨_, ⟨-, hr⟩, -⟩ := run_bind.1 h
      · obtain ⟨_, -, _, rfl, h₃, rfl⟩ := run_lift_bind.1 h₂
        obtain ⟨rfl, rfl⟩ := run_pure.1 h₃
        exact .failed hf rfl rfl
      · cases hr
  | false =>
    rw [if_neg (by rw [hf]; decide)] at h
    cases hr : status.reaches commitment with
    | true =>
      rw [if_pos hr] at h
      obtain ⟨_, -, _, rfl, h₃, rfl⟩ := run_lift_bind.1 h
      obtain ⟨rfl, rfl⟩ := run_pure.1 h₃
      exact .confirmed hf hr rfl rfl
    | false =>
      rw [if_neg (by rw [hr]; decide)] at h
      obtain ⟨rfl, rfl⟩ := run_pure.1 h
      exact .pending hf hr

section
variable {status : SignatureStatus} {r : Except Failure (Option Outcome)}

theorem Decided.eq_none_iff (h : Decided commitment signature status r) :
    r = .ok none ↔ ¬ (status.failed = true ∨ status.reaches commitment = true) := by
  cases h with
  | failed hf => simp [hf]
  | garbled hf => simp [hf]
  | confirmed hf hr => simp [hr]
  | pending hf hr => simp [hf, hr]

theorem Decided.confirmed_iff (h : Decided commitment signature status r) :
    status.failed = false ∧ status.reaches commitment = true ↔
      ∃ o, r = .ok (some o) ∧ o.verdict = .confirmed := by
  cases h with
  | failed hf hs hv => simp [hf, hv]
  | garbled hf => simp [hf]
  | confirmed hf hr hs hv => simp [hf, hr, hv]
  | pending hf hr => simp [hr]

theorem Decided.outcome (h : Decided commitment signature status r) {o : Outcome}
    (ho : r = .ok (some o)) : o.signature = signature ∧ o.verdict ≠ .unknown := by
  cases h with
  | failed hf hs hv =>
    cases ho
    exact ⟨hs, by rw [hv]; decide⟩
  | garbled hf => cases ho
  | confirmed hf hr hs hv =>
    cases ho
    exact ⟨hs, by rw [hv]; decide⟩
  | pending hf hr => cases ho

end

/-- What a poll asks, and what it makes of the answers. -/
inductive Asked (event : Host.Event τ → ε) (ledger : Ledger (Behaviour ε)) (commitment : Commitment)
    (signature limit : Json) : List ε → Except Failure (Option Outcome) → Prop where
  | failed {t₁ t₂ : List ε} {f : Failure} {r : Except Failure (Option Outcome)}
      (hs : Run (ledger.status signature) t₁ (.error f)) (ht : Host.Only event t₂)
      (hr : r = if f.isTransport then .ok none else .error f) :
      Asked event ledger commitment signature limit (t₁ ++ t₂) r
  | missing {t : List ε} (hs : Run (ledger.status signature) t (.ok none)) :
      Asked event ledger commitment signature limit t (.ok none)
  | told {t₁ t₂ : List ε} {status : SignatureStatus} {r : Except Failure (Option Outcome)}
      (hs : Run (ledger.status signature) t₁ (.ok (some status))) (ht : Host.Only event t₂)
      (hr : Decided commitment signature status r) :
      Asked event ledger commitment signature limit (t₁ ++ t₂) r
  | aged {t₁ t₂ t₃ : List ε} {answer : Except Failure Json} {r : Except Failure (Option Outcome)}
      (hs : Run (ledger.status signature) t₁ (.ok none)) (hh : Run ledger.height t₂ answer)
      (ht : Host.Only event t₃)
      (hr : r = match heightFault signature limit answer with
        | some f => .error f
        | none => .ok none) :
      Asked event ledger commitment signature limit (t₁ ++ (t₂ ++ t₃)) r

/-- The block height is asked for once. -/
theorem checkExpiry_cases {t : List ε} {r : Except Failure Unit}
    (h : Run (checkExpiry (.free event) ledger signature limit) t r) :
    ∃ t₁ t₂ answer, Run ledger.height t₁ answer ∧ Host.Only event t₂ ∧ t = t₁ ++ t₂ ∧
      r = match heightFault signature limit answer with
        | some f => .error f
        | none => .ok () := by
  obtain ⟨t₁, t₂, answer, hh, ht, rfl, hr⟩ := checkExpiry_run h
  refine ⟨t₁, t₂, answer, hh, ht, rfl, ?_⟩
  cases hf : heightFault signature limit answer with
  | some f => exact (hr f).2 hf
  | none =>
    cases r with
    | ok u => rfl
    | error f =>
      rw [(hr f).1 rfl] at hf
      cases hf

theorem poll_cases {t : List ε} {r : Except Failure (Option Outcome)}
    (h : Run (poll (.free event) ledger commitment signature limit) t r) :
    Asked event ledger commitment signature limit t r := by
  obtain ⟨t₁, answer, t₂, h₁, h₂, rfl⟩ | ⟨f, h₁, rfl⟩ := run_bind.1 h
  · obtain ⟨status, hs, ha⟩ | ⟨s, fault, hs, rfl, ha⟩ | ⟨_, -, -, ha⟩ := tolerate_run.1 h₁
    · cases ha
      cases status with
      | some status => exact .told hs (decided_run h₂).1 (decided_cases h₂)
      | none =>
        dsimp only at h₂
        split at h₂
        · obtain ⟨rfl, rfl⟩ := run_pure.1 h₂
          rw [List.append_nil]
          exact .missing hs
        · obtain ⟨s, u, _, h₃, h₄, rfl⟩ | ⟨f, h₃, rfl⟩ := run_bind.1 h₂
          · obtain ⟨s₁, s₂, answer, hh, ht, rfl, hr⟩ := checkExpiry_cases h₃
            obtain ⟨rfl, rfl⟩ := run_pure.1 h₄
            rw [List.append_nil]
            refine .aged hs hh ht ?_
            split at hr
            · cases hr
            · rfl
          · obtain ⟨s₁, s₂, answer, hh, ht, rfl, hr⟩ := checkExpiry_cases h₃
            refine .aged hs hh ht ?_
            split at hr
            · cases hr
              rfl
            · cases hr
    · cases ha
      obtain ⟨rfl, rfl⟩ := run_pure.1 h₂
      rw [List.append_nil]
      exact .failed hs Host.Only.nil.cons rfl
    · cases ha
  · obtain ⟨_, -, ha⟩ | ⟨_, _, -, -, ha⟩ | ⟨_, hs, hn, ha⟩ := tolerate_run.1 h₁
    · cases ha
    · cases ha
    · cases ha
      rw [← List.append_nil t]
      exact .failed hs Host.Only.nil (by rw [hn, if_neg (by decide)])

/-! ## Polling -/

variable [Seconds τ]

/-- The time of polling is up: between the first and the last time that the clock told lies the
timeout. -/
def TimeUp (timeout : τ) (times : List τ) : Prop :=
  ∃ start now, times.head? = some start ∧ times.getLast? = some now ∧
    (Seconds.lt (Seconds.sub now start) timeout = false ∨
      Seconds.le (Seconds.sub timeout (Seconds.sub now start)) Seconds.zero = true)

/-- What happens while polling goes on: something on the machine, or in a poll that is undecided. -/
def Idle (event : Host.Event τ → ε) (ledger : Ledger (Behaviour ε)) (commitment : Commitment)
    (signature limit : Json) (e : ε) : Prop :=
  (∃ h, e = event h) ∨
    ∃ t, Run (poll (.free event) ledger commitment signature limit) t (.ok none) ∧ e ∈ t

/-- How polling ends, if it began at `start`. -/
inductive Awaited (event : Host.Event τ → ε) (ledger : Ledger (Behaviour ε))
    (commitment : Commitment) (polling : Polling τ) (signature limit : Json) (start : τ) :
    List ε → Except Failure Outcome → Prop where
  | polled {t₁ t₂ : List ε} {r : Except Failure Outcome}
      (ht : ∀ e ∈ t₁, Idle event ledger commitment signature limit e)
      (hp : Run (poll (.free event) ledger commitment signature limit) t₂ (r.map some)) :
      Awaited event ledger commitment polling signature limit start (t₁ ++ t₂) r
  | timedOut {t : List ε} {now : τ} {line : Log.Line} {o : Outcome}
      (ht : ∀ e ∈ t, Idle event ledger commitment signature limit e)
      (hup : Seconds.lt (Seconds.sub now start) polling.timeout = false ∨
        Seconds.le (Seconds.sub polling.timeout (Seconds.sub now start)) Seconds.zero = true)
      (hs : o.signature = signature) (hv : o.verdict = .unknown) :
      Awaited event ledger commitment polling signature limit start
        (t ++ [event (.read now), event (.logged line)]) (.ok o)

theorem Awaited.append {start : τ} {t₁ t₂ : List ε} {r : Except Failure Outcome}
    (ht : ∀ e ∈ t₁, Idle event ledger commitment signature limit e)
    (h : Awaited event ledger commitment polling signature limit start t₂ r) :
    Awaited event ledger commitment polling signature limit start (t₁ ++ t₂) r := by
  cases h with
  | polled ht₂ hp =>
    rw [← List.append_assoc]
    exact .polled (List.forall_mem_append.2 ⟨ht, ht₂⟩) hp
  | timedOut ht₂ hup hs hv =>
    rw [← List.append_assoc]
    exact .timedOut (List.forall_mem_append.2 ⟨ht, ht₂⟩) hup hs hv

theorem Rounds.awaited {start : τ} {rounds : Nat} {interval : τ} {polls : List (Poll ε τ)}
    {t : List ε} {r : Except Failure Outcome}
    (h : Rounds False event ledger commitment polling signature limit start rounds interval polls t r) :
    Awaited event ledger commitment polling signature limit start t r := by
  have hhost : ∀ h : Host.Event τ, ∀ e ∈ [event h],
      Idle event ledger commitment signature limit e := by
    intro h e he
    exact .inl ⟨h, List.mem_singleton.1 he⟩
  -- what an undecided poll leaves is idle
  have hidle : ∀ t, Run (poll (.free event) ledger commitment signature limit) t (.ok none) →
      ∀ e ∈ t, Idle event ledger commitment signature limit e :=
    fun t hpoll e he => .inr ⟨t, hpoll, he⟩
  induction h with
  | exhausted hcut => exact hcut.elim
  | late hlate =>
    exact .timedOut (List.forall_mem_nil _) (.inl (eq_false_of_ne_true hlate)) rfl rfl
  | decided _ hpoll => exact .polled (hhost _) hpoll
  | ended _ hpoll hover =>
    exact .append (hhost _) (.append (hidle _ hpoll)
      (.timedOut (List.forall_mem_nil _) (.inr hover) rfl rfl))
  | again _ hpoll _ _ ih =>
    exact .append (hhost _) (.append (hidle _ hpoll) (.append (hhost _) (.append (hhost _) ih)))

theorem await_cases {t : List ε} {r : Except Failure Outcome}
    (h : Run (await (.free event) ledger commitment polling signature limit) t r) :
    ∃ start t', t = event (.read start) :: t' ∧
      Awaited event ledger commitment polling signature limit start t' r := by
  obtain ⟨start, polls, t', rfl, hrounds⟩ := await_iff.1 h
  exact ⟨start, t', rfl, hrounds.awaited⟩

end
end StorageAgent.Confirmation
