import StorageAgent.Proofs.Confirmation.Rounds
import StorageAgent.Proofs.Retry

/-!
# The polling loop, for any ledger

`Confirmation.await` reads the clock, polls, and sleeps in between. One poll asks
for the status and, if the cluster does not have it, for the block height. What it
leaves and how it fails depends on the answers alone, and so it is with the loop:

* `poll_run`: what one poll asks, and which answer decides how it ends.
* `await_leaves`: what a poll and the machine leave, polling leaves.
* `await_failsBy`: if polls fail by an event, polling fails by that event.
* `await_error`: polling fails only with the failure of its last poll.
-/
namespace StorageAgent.Confirmation

open Behaviour

variable {ε τ : Type} [Seconds τ] {event : Host.Event τ → ε} {ledger : Ledger (Behaviour ε)}
  {commitment : Commitment} {polling : Polling τ} {signature limit : Json}

/-! ## One poll -/

/-- The failure that an answer about the status forces, if it forces one. -/
def statusFault : Except Failure (Option SignatureStatus) → Option Failure
  | .error f => if f.isTransport then none else some f
  | .ok none => none
  | .ok (some status) =>
    match status.failed, TransactionError.ofJson status.err with
    | true, .error fault => some (.ofPairFault fault)
    | _, _ => none

/-- The failure that an answer about the block height forces, if it forces one. -/
def heightFault (signature limit : Json) : Except Failure Json → Option Failure
  | .error f => if f.isTransport then none else some f
  | .ok height =>
    match height.exceeds? limit with
    | none => some (.of .wrongKind)
    | some true => some (.client (.stale (.expired signature limit height)))
    | some false => none

section
omit [Seconds τ]

theorem tolerate_run {α : Type} {describe : TransportFault → String}
    {question : ExceptT Failure (Behaviour ε) α} {t : List ε} {r : Except Failure (Option α)} :
    Run (tolerate (.free event) describe question) t r ↔
      (∃ a, Run question t (.ok a) ∧ r = .ok (some a)) ∨
      (∃ t₁ fault, Run question t₁ (.error (.client (.transport fault))) ∧
        t = t₁ ++ [event (.logged (line .warning (describe fault)))] ∧ r = .ok none) ∨
      ∃ f, Run question t (.error f) ∧ f.isTransport = false ∧ r = .error f := by
  rw [tolerate, run_mk, bind_iff]
  constructor
  · rintro ⟨t₁, q, t₂, hq, h₂, rfl⟩
    split at h₂
    · obtain ⟨rfl, rfl⟩ := pure_iff.1 h₂
      exact .inl ⟨_, by rw [List.append_nil]; exact hq, rfl⟩
    · obtain ⟨_, -, _, rfl, ⟨rfl, rfl⟩, rfl⟩ := bind_iff.1 h₂
      exact .inr (.inl ⟨t₁, _, hq, rfl, rfl⟩)
    · rename_i failure hnt
      obtain ⟨rfl, rfl⟩ := pure_iff.1 h₂
      refine .inr (.inr ⟨failure, by rw [List.append_nil]; exact hq, ?_, rfl⟩)
      exact Failure.isTransport_eq_false hnt
  · rintro (⟨a, hq, rfl⟩ | ⟨t₁, fault, hq, rfl, rfl⟩ | ⟨f, hq, hnt, rfl⟩)
    · exact ⟨t, .ok a, [], hq, ⟨rfl, rfl⟩, by simp⟩
    · exact ⟨t₁, _, _, hq, ⟨_, (), [], rfl, ⟨rfl, rfl⟩, rfl⟩, rfl⟩
    · refine ⟨t, .error f, [], hq, ?_, by simp⟩
      cases f with
      | fault kind message => exact ⟨rfl, rfl⟩
      | client error =>
        cases error with
        | transport fault => cases hnt
        | _ => exact ⟨rfl, rfl⟩

/-- A status leaves nothing but a report, and fails only if its error is out of shape. -/
theorem decided_run {status : SignatureStatus} {t : List ε} {r : Except Failure (Option Outcome)}
    (h : Run (decided (.free event) commitment signature status) t r) :
    Host.Only event t ∧ ∀ f, r = .error f ↔ statusFault (.ok (some status)) = some f := by
  rw [decided] at h
  rw [statusFault]
  cases hf : status.failed with
  | true =>
    rw [if_pos hf, Rejection.ofTransactionError] at h
    cases he : TransactionError.ofJson status.err with
    | error fault =>
      rw [he] at h
      rcases run_bind.1 h with ⟨_, _, _, ⟨-, hr⟩, -, -⟩ | ⟨_, ⟨rfl, hr⟩, rfl⟩
      · cases hr
      · cases hr
        exact ⟨Host.Only.nil, by simp⟩
    | ok e =>
      rw [he] at h
      rcases run_bind.1 h with ⟨_, _, _, ⟨rfl, hr⟩, h₂, rfl⟩ | ⟨_, ⟨-, hr⟩, -⟩
      · obtain ⟨_, -, _, rfl, h₃, rfl⟩ := run_lift_bind.1 h₂
        obtain ⟨rfl, rfl⟩ := run_pure.1 h₃
        exact ⟨Host.Only.nil.cons, by simp⟩
      · cases hr
  | false =>
    rw [if_neg (by rw [hf]; decide)] at h
    split at h
    · obtain ⟨_, -, _, rfl, h₃, rfl⟩ := run_lift_bind.1 h
      obtain ⟨rfl, rfl⟩ := run_pure.1 h₃
      exact ⟨Host.Only.nil.cons, by simp⟩
    · obtain ⟨rfl, rfl⟩ := run_pure.1 h
      exact ⟨Host.Only.nil, by simp⟩

theorem checkExpiry_run {t : List ε} {r : Except Failure Unit}
    (h : Run (checkExpiry (.free event) ledger signature limit) t r) :
    ∃ t₁ t₂ answer, Run ledger.height t₁ answer ∧ Host.Only event t₂ ∧ t = t₁ ++ t₂ ∧
      ∀ f, r = .error f ↔ heightFault signature limit answer = some f := by
  rcases run_bind.1 h with ⟨_, answer, _, h₁, h₂, rfl⟩ | ⟨f, h₁, rfl⟩
  · rcases tolerate_run.1 h₁ with ⟨height, hh, ha⟩ | ⟨t₁, fault, hh, rfl, ha⟩ | ⟨_, -, -, ha⟩
    · cases ha
      dsimp only at h₂
      refine ⟨_, [], _, hh, Host.Only.nil, ?_⟩
      split at h₂
      all_goals
        rename_i hx
        obtain ⟨rfl, rfl⟩ := h₂
        simp [heightFault, hx]
    · cases ha
      obtain ⟨rfl, rfl⟩ := run_pure.1 h₂
      rw [List.append_nil]
      exact ⟨_, _, _, hh, Host.Only.nil.cons, rfl, by simp [heightFault, Failure.isTransport]⟩
    · cases ha
  · rcases tolerate_run.1 h₁ with ⟨_, -, ha⟩ | ⟨_, _, -, -, ha⟩ | ⟨_, hh, hn, ha⟩
    · cases ha
    · cases ha
    · cases ha
      exact ⟨_, [], _, hh, Host.Only.nil, by simp, by simp [heightFault, hn]⟩

/-- What a poll asks. The answer about the status decides how it ends, unless the cluster does not
have one and there is a limit: then the answer about the height does. -/
inductive Polled (event : Host.Event τ → ε) (ledger : Ledger (Behaviour ε)) (signature limit : Json) :
    List ε → Except Failure (Option Outcome) → Prop where
  | status {t₁ t₂ : List ε} {answer : Except Failure (Option SignatureStatus)}
      {r : Except Failure (Option Outcome)} (hs : Run (ledger.status signature) t₁ answer)
      (ht : Host.Only event t₂) (hr : ∀ f, r = .error f ↔ statusFault answer = some f) :
      Polled event ledger signature limit (t₁ ++ t₂) r
  | height {t₁ t₂ t₃ : List ε} {answer : Except Failure Json} {r : Except Failure (Option Outcome)}
      (hs : Run (ledger.status signature) t₁ (.ok none)) (hh : Run ledger.height t₂ answer)
      (ht : Host.Only event t₃)
      (hr : ∀ f, r = .error f ↔ heightFault signature limit answer = some f) :
      Polled event ledger signature limit (t₁ ++ (t₂ ++ t₃)) r

theorem poll_run {t : List ε} {r : Except Failure (Option Outcome)}
    (h : Run (poll (.free event) ledger commitment signature limit) t r) :
    Polled event ledger signature limit t r := by
  rcases run_bind.1 h with ⟨t₁, answer, t₂, h₁, h₂, rfl⟩ | ⟨f, h₁, rfl⟩
  · rcases tolerate_run.1 h₁ with ⟨status, hs, ha⟩ | ⟨s, fault, hs, rfl, ha⟩ | ⟨_, -, -, ha⟩
    · cases ha
      cases status with
      | some status =>
        obtain ⟨ht, hr⟩ := decided_run h₂
        exact .status hs ht hr
      | none =>
        dsimp only at h₂
        split at h₂
        · obtain ⟨rfl, rfl⟩ := run_pure.1 h₂
          exact .status hs Host.Only.nil (by simp [statusFault])
        rcases run_bind.1 h₂ with ⟨s, _, _, h₃, h₄, rfl⟩ | ⟨f, h₃, rfl⟩
        · obtain ⟨s₁, s₂, answer, hh, ht, rfl, hr⟩ := checkExpiry_run h₃
          obtain ⟨rfl, rfl⟩ := run_pure.1 h₄
          rw [List.append_nil]
          exact .height hs hh ht fun f => by rw [← hr f]; simp
        · obtain ⟨s₁, s₂, answer, hh, ht, rfl, hr⟩ := checkExpiry_run h₃
          exact .height hs hh ht fun g => by rw [← hr g]; simp
    · cases ha
      obtain ⟨rfl, rfl⟩ := run_pure.1 h₂
      rw [List.append_nil]
      exact .status hs Host.Only.nil.cons (by simp [statusFault, Failure.isTransport])
    · cases ha
  · rcases tolerate_run.1 h₁ with ⟨_, -, ha⟩ | ⟨_, _, -, -, ha⟩ | ⟨_, hs, hn, ha⟩
    · cases ha
    · cases ha
    · cases ha
      rw [← List.append_nil t]
      exact .status hs Host.Only.nil (by simp [statusFault, hn])

theorem poll_leaves {P : ε → Prop} (hhost : ∀ h, P (event h))
    (hs : Leaves P (ledger.status signature)) (hh : Leaves P ledger.height) :
    Leaves P (poll (.free event) ledger commitment signature limit) := by
  intro t r h
  cases poll_run h with
  | status hr ht => exact List.forall_mem_append.2 ⟨hs hr, ht.forall_mem hhost⟩
  | height hr₁ hr₂ ht =>
    refine List.forall_mem_append.2 ⟨hs hr₁, ?_⟩
    exact List.forall_mem_append.2 ⟨hh hr₂, ht.forall_mem hhost⟩

/-- Every fault of the kind `F` in an answer is shown by an event of the kind `Q`, unless it is one
of the silent ones `S`; and such an event never goes without such a fault. -/
def FaultsBy {α : Type} (F S : Failure → Prop) (Q : ε → Prop)
    (fault : Except Failure α → Option Failure) (question : ExceptT Failure (Behaviour ε) α) : Prop :=
  ∀ ⦃t answer⦄, Run question t answer →
    ((∃ f, fault answer = some f ∧ F f) ↔
      (∃ e ∈ t, Q e) ∨ ∃ f, fault answer = some f ∧ F f ∧ S f)

theorem poll_failsBy {F S : Failure → Prop} {Q : ε → Prop} (hhost : ∀ h, ¬ Q (event h))
    (hs : FaultsBy F S Q statusFault (ledger.status signature))
    (hh : FaultsBy F S Q (heightFault signature limit) ledger.height) :
    FailsBy F S Q (poll (.free event) ledger commitment signature limit) := by
  intro t r h
  have hhosts : ∀ s, Host.Only event s → ¬ ∃ e ∈ s, Q e := by
    rintro s hs ⟨e, he, hq⟩
    exact hs.forall_mem (P := fun e => ¬ Q e) hhost e he hq
  cases poll_run h with
  | status hr ht hf =>
    simp only [List.mem_append, or_and_right, exists_or, hhosts _ ht, or_false, hf]
    exact hs hr
  | height hr₁ hr₂ ht hf =>
    -- the cluster does not have the status, so nothing before the second answer shows a fault
    have hq := hs hr₁
    simp only [statusFault, reduceCtorEq, false_and, exists_false, or_false, false_iff] at hq
    simp only [List.mem_append, or_and_right, exists_or, hhosts _ ht, hq, or_false, false_or, hf]
    exact hh hr₂

end

/-! ## From polls to polling -/

section
variable {start interval : τ} {rounds : Nat} {polls : List (Poll ε τ)} {t : List ε}
  {r : Except Failure Outcome}

theorem Rounds.forall_mem {P : ε → Prop} (hhost : ∀ h, P (event h))
    (hpoll : Leaves P (poll (.free event) ledger commitment signature limit))
    (h : Rounds False event ledger commitment polling signature limit start rounds interval polls t
      r) : ∀ e ∈ t, P e := by
  induction h with
  | exhausted => exact List.forall_mem_nil _
  | late => simp [gaveUp, hhost]
  | decided _ hrun => exact List.forall_mem_cons.2 ⟨hhost _, hpoll hrun⟩
  | ended _ hrun =>
    refine List.forall_mem_cons.2 ⟨hhost _, List.forall_mem_append.2 ⟨hpoll hrun, ?_⟩⟩
    simp [gaveUp, hhost]
  | again _ hrun _ _ ih =>
    refine List.forall_mem_cons.2 ⟨hhost _, List.forall_mem_append.2 ⟨hpoll hrun, ?_⟩⟩
    exact List.forall_mem_cons.2 ⟨hhost _, List.forall_mem_cons.2 ⟨hhost _, ih⟩⟩

/-- Only the last poll can fail, so nothing before it shows a failure. -/
theorem Rounds.failsBy {F S : Failure → Prop} {Q : ε → Prop} (hhost : ∀ h, ¬ Q (event h))
    (hpoll : FailsBy F S Q (poll (.free event) ledger commitment signature limit))
    (h : Rounds False event ledger commitment polling signature limit start rounds interval polls t
      r) :
    (∃ f, r = .error f ∧ F f) ↔ (∃ e ∈ t, Q e) ∨ ∃ f, r = .error f ∧ F f ∧ S f := by
  induction h with
  | exhausted hcut => exact hcut.elim
  | late => simp [gaveUp, hhost]
  | @decided _ _ _ t r _ hrun =>
    have hsame : ∀ f, r.map some = .error f ↔ r = .error f := by
      cases r <;> simp [Except.map]
    have hfails := hpoll hrun
    simp only [hsame] at hfails
    simpa [hhost] using hfails
  | @ended _ _ _ _ t _ hrun =>
    have hquiet : ∀ e ∈ t, ¬ Q e := by simpa using hpoll hrun
    simpa [gaveUp, or_imp, forall_and, hhost] using hquiet
  | @again _ _ _ _ _ t t' _ _ hrun _ _ ih =>
    have hquiet : ¬ ∃ e ∈ t, Q e := by simpa using hpoll hrun
    rw [ih]
    simp only [List.mem_cons, or_and_right, exists_or, exists_eq_left, hhost, false_or,
      exists_append_iff hquiet]

end

theorem await_leaves {P : ε → Prop} (hhost : ∀ h, P (event h))
    (hpoll : Leaves P (poll (.free event) ledger commitment signature limit)) :
    Leaves P (await (.free event) ledger commitment polling signature limit) := by
  intro t r h
  obtain ⟨start, polls, t', rfl, hrounds⟩ := await_iff.1 h
  exact List.forall_mem_cons.2 ⟨hhost _, hrounds.forall_mem hhost hpoll⟩

theorem await_failsBy {F S : Failure → Prop} {Q : ε → Prop} (hhost : ∀ h, ¬ Q (event h))
    (hpoll : FailsBy F S Q (poll (.free event) ledger commitment signature limit)) :
    FailsBy F S Q (await (.free event) ledger commitment polling signature limit) := by
  intro t r h
  obtain ⟨start, polls, t', rfl, hrounds⟩ := await_iff.1 h
  simpa [hhost] using hrounds.failsBy hhost hpoll

theorem await_error {t : List ε} {f : Failure}
    (h : Run (await (.free event) ledger commitment polling signature limit) t (.error f)) :
    ∃ t₁ t₂, t = t₁ ++ t₂ ∧
      Run (poll (.free event) ledger commitment signature limit) t₂ (.error f) := by
  obtain ⟨start, polls, t', rfl, hrounds⟩ := await_iff.1 h
  obtain ⟨t₂, ⟨t₁, rfl⟩, hpoll⟩ := hrounds.error_cases
  exact ⟨event (.read start) :: t₁, t₂, rfl, hpoll⟩

/-! ## Polling that ends with its first poll -/

section
omit [Seconds τ]

theorem decided_of_reached {status : SignatureStatus} (hf : status.failed = false)
    (hr : status.reaches commitment = true) :
    Run (decided (.free event) commitment signature status)
      [event (.logged (line .info
        s!"Transaction {signature.display} reached {commitment.name} in slot {status.slot.display}"))]
      (.ok (some { signature, verdict := .confirmed, slot := status.slot })) := by
  rw [decided, hf, if_neg (by decide), hr, if_pos rfl]
  exact run_lift_bind.2 ⟨[_], (), [], rfl, run_pure.2 ⟨rfl, rfl⟩, rfl⟩

theorem poll_of_status (status : SignatureStatus) (t₁ : List ε) {t₂ : List ε}
    {r : Except Failure (Option Outcome)} (hs : Run (ledger.status signature) t₁ (.ok (some status)))
    (hd : Run (decided (.free event) commitment signature status) t₂ r) :
    Run (poll (.free event) ledger commitment signature limit) (t₁ ++ t₂) r :=
  run_bind.2 (.inl ⟨t₁, _, t₂, tolerate_run.2 (.inl ⟨_, hs, rfl⟩), hd, rfl⟩)

theorem poll_of_failure {t : List ε} {f : Failure} (hs : Run (ledger.status signature) t (.error f))
    (hf : f.isTransport = false) :
    Run (poll (.free event) ledger commitment signature limit) t (.error f) :=
  run_bind.2 (.inr ⟨f, tolerate_run.2 (.inr (.inr ⟨f, hs, hf, rfl⟩)), rfl⟩)

theorem poll_of_height (t₁ t₂ : List ε) {height : Json} (hl : limit.isNull = false)
    (hs : Run (ledger.status signature) t₁ (.ok none)) (hh : Run ledger.height t₂ (.ok height))
    (hpast : height.exceeds? limit = some true) :
    Run (poll (.free event) ledger commitment signature limit) (t₁ ++ t₂)
      (.error (.client (.stale (.expired signature limit height)))) := by
  refine run_bind.2 (.inl ⟨t₁, _, t₂, tolerate_run.2 (.inl ⟨_, hs, rfl⟩), ?_, rfl⟩)
  dsimp only
  rw [hl, if_neg (by decide)]
  refine run_bind.2 (.inr ⟨_, ?_, rfl⟩)
  refine run_bind.2 (.inl ⟨t₂, _, [], tolerate_run.2 (.inl ⟨_, hh, rfl⟩), ?_, by simp⟩)
  dsimp only
  rw [hpast]
  exact run_throw.2 ⟨rfl, rfl⟩

theorem poll_of_alive (t₁ t₂ : List ε) {height : Json} (hl : limit.isNull = false)
    (hs : Run (ledger.status signature) t₁ (.ok none)) (hh : Run ledger.height t₂ (.ok height))
    (halive : height.exceeds? limit = some false) :
    Run (poll (.free event) ledger commitment signature limit) (t₁ ++ t₂) (.ok none) := by
  refine run_bind.2 (.inl ⟨t₁, _, t₂, tolerate_run.2 (.inl ⟨_, hs, rfl⟩), ?_, rfl⟩)
  dsimp only
  rw [hl, if_neg (by decide)]
  refine run_bind.2 (.inl ⟨t₂, (), [], ?_, run_pure.2 ⟨rfl, rfl⟩, by simp⟩)
  refine run_bind.2 (.inl ⟨t₂, _, [], tolerate_run.2 (.inl ⟨_, hh, rfl⟩), ?_, by simp⟩)
  dsimp only
  rw [halive]
  exact run_pure.2 ⟨rfl, rfl⟩

end

theorem every_rounds_ne_zero {timeout interval cap : τ} :
    (Polling.every timeout interval cap).rounds ≠ 0 := by
  simp [Polling.every, Polling.spareRounds]

theorem await_first {start now : τ} {t : List ε} {r : Except Failure Outcome}
    (hrounds : polling.rounds ≠ 0)
    (htime : Seconds.lt (Seconds.sub now start) polling.timeout = true)
    (h : Run (poll (.free event) ledger commitment signature limit) t (r.map some)) :
    Run (await (.free event) ledger commitment polling signature limit)
      (event (.read start) :: event (.read now) :: t) r := by
  obtain ⟨rounds, hr⟩ := Nat.exists_eq_succ_of_ne_zero hrounds
  refine await_iff.2 ⟨start, [⟨now, t, r.map some⟩], _, rfl, ?_⟩
  rw [hr]
  exact .decided htime h

end StorageAgent.Confirmation
