import StorageAgent.Client
import StorageAgent.Proofs.Confirmation.Told
import StorageAgent.Proofs.Envelope.Assembled

/-!
# What the result of an operation tells

An operation is a sequence of attempts. Each begins with a block hash of its own, so what counts in
the end is what happened since the last one was asked for: no answer to an earlier attempt makes the
operation confirmed or leaves its outcome unknown.

* `Pending`: the transaction of the last attempt was accepted, and nothing decisive was answered.
* `execute_tells`: the result of an operation is confirmed exactly if the last answer about a status
  confirms, and unknown exactly if the last transaction is pending.
-/
namespace StorageAgent.Client

open Behaviour Confirmation

variable {τ : Type} {config : SessionConfig τ} {commitment : Commitment} {timeout : τ}
  {t t₁ t₂ : List (Wire.Event τ)} {r : Except Failure Outcome}

/-! ## The last attempt -/

/-- A block hash was told last, and with it the last height at which a transaction can land. -/
def LimitTold (config : SessionConfig τ) (limit : Json) (t : List (Wire.Event τ)) : Prop :=
  ∃ params checkpoint, (Wire.checkpoints config t).getLast? = some (params, .ok checkpoint) ∧
    checkpoint.lastValidHeight = limit

/-- Since the last block hash was told, a transaction was accepted and nothing decisive was
answered. -/
def Pending (config : SessionConfig τ) (commitment : Commitment) (t : List (Wire.Event τ)) :
    Prop :=
  ∃ limit, LimitTold config limit t ∧
    Open config commitment limit (Wire.sinceCheckpoint t)

/-- Since the last block hash was told, the time of polling is up, and all questions about a status
were about this signature. -/
def Exhausted [Seconds τ] (config : SessionConfig τ) (timeout : τ) (t : List (Wire.Event τ))
    (signature : Json) : Prop :=
  TimeUp timeout (Wire.times (Wire.sinceCheckpoint t)) ∧
    ∀ b ∈ Wire.statuses config (Wire.sinceCheckpoint t), Wire.About signature b.1

/-- The result of an operation tells what was heard, and no transaction goes without a block
hash. -/
structure OperationTells [Seconds τ] (config : SessionConfig τ) (commitment : Commitment)
    (timeout : τ) (t : List (Wire.Event τ)) (r : Except Failure Outcome) : Prop
    extends Tells config commitment (Pending config commitment t)
      (fun s => Pending config commitment t ∧ Exhausted config timeout t s) t r where
  receipts : Wire.checkpoints config t = [] → Wire.receipts config t = []

section
variable [Seconds τ]

/-- Where nothing was sent, an error tells all there is. -/
theorem tells_of_unsent {f : Failure} (hstatuses : Wire.statuses config t = [])
    (hreceipts : Wire.receipts config t = []) :
    OperationTells config commitment timeout t (.error f) := by
  refine ⟨⟨?confirmed, nofun, ?pending, nofun⟩, fun _ => hreceipts⟩
  case confirmed =>
    intro ⟨b, hb, _⟩
    rw [hstatuses] at hb
    cases hb
  case pending =>
    intro ⟨limit, _, ⟨b, hb, _⟩, _⟩
    rw [Wire.receipts, Wire.answers_sinceCheckpoint_eq_nil hreceipts] at hb
    cases hb

/-- A block hash was told, and then a submission with its limit tells the result. -/
theorem tells_of_submission {params : List Json} {checkpoint : Checkpoint}
    (hcall : Wire.Heard config "getLatestBlockhash" params Result.checkpoint t₁
      (.ok checkpoint))
    (hnone : Wire.checkpoints config t₂ = [])
    (htells : Tells config commitment
      (Open config commitment checkpoint.lastValidHeight t₂)
      (fun s => Open config commitment checkpoint.lastValidHeight t₂ ∧
        TimeUp timeout (Wire.times t₂) ∧
        ∀ b ∈ Wire.statuses config t₂, Wire.About s b.1) t₂ r) :
    OperationTells config commitment timeout (t₁ ++ t₂) r := by
  have hlast : (Wire.checkpoints config (t₁ ++ t₂)).getLast? =
      some (params, .ok checkpoint) := by
    have hpassing : ¬ Wire.Passing (params, Except.ok checkpoint) := by
      rintro ⟨fault, ⟨⟩⟩
    simp only [Wire.answers_append, hnone, List.append_nil]
    exact hcall.getLast?_eq hpassing
  have hsince : Wire.sinceCheckpoint (t₁ ++ t₂) = Wire.sinceCheckpoint t₁ ++ t₂ :=
    Wire.sinceCheckpoint_append_of_eq_nil hnone
  -- the call for the block hash asked nothing about a transaction
  have hstatuses₁ : Wire.statuses config t₁ = [] := hcall.answers_eq_nil (by decide)
  have hsilent : Silent config (Wire.sinceCheckpoint t₁) :=
    ⟨Wire.answers_sinceCheckpoint_eq_nil (hcall.answers_eq_nil (by decide)),
      Wire.answers_sinceCheckpoint_eq_nil hstatuses₁,
      Wire.answers_sinceCheckpoint_eq_nil (hcall.answers_eq_nil (by decide))⟩
  have hstatuses : Wire.statuses config (t₁ ++ t₂) = Wire.statuses config t₂ := by
    simp [hstatuses₁]
  have htimes : Wire.times (Wire.sinceCheckpoint (t₁ ++ t₂)) = Wire.times t₂ := by
    rw [hsince, Wire.times_append, Wire.times_sinceCheckpoint_eq_nil hcall.times_eq_nil,
      List.nil_append]
  have hpending : Pending config commitment (t₁ ++ t₂) ↔
      Open config commitment checkpoint.lastValidHeight t₂ := by
    rw [← hsilent.open_append_iff, ← hsince]
    constructor
    · intro ⟨limit, ⟨params', checkpoint', hlast', hlimit⟩, hopen⟩
      cases hlast.symm.trans hlast'
      rw [hlimit]
      exact hopen
    · exact fun hopen => ⟨_, ⟨params, checkpoint, hlast, rfl⟩, hopen⟩
  refine ⟨⟨?confirmed, ?last, fun h => htells.pending (hpending.1 h), ?unknown⟩, ?receipts⟩
  case confirmed =>
    intro hconfirmed
    exact htells.confirmed ((confirmed_of_statuses hstatuses).1 hconfirmed)
  case last =>
    rw [hstatuses]
    exact htells.last
  case unknown =>
    intro o ho hv
    obtain ⟨hopen, htime, habout⟩ := htells.unknown o ho hv
    refine ⟨hpending.2 hopen, ?_, ?_⟩
    · rw [htimes]
      exact htime
    · rw [hsince]
      simpa [hsilent.statuses] using habout
  case receipts =>
    intro h
    rw [h] at hlast
    cases hlast

namespace OperationTells

/-- A failed attempt leaves nothing that counts once another one follows. -/
theorem append {f : Failure} (h₁ : OperationTells config commitment timeout t₁ (.error f))
    (h₂ : OperationTells config commitment timeout t₂ r) :
    OperationTells config commitment timeout (t₁ ++ t₂) r := by
  have hconfirmed₁ : ¬ Confirmed config commitment t₁ := by
    intro hconfirmed
    obtain ⟨o, ho, -⟩ := h₁.confirmed hconfirmed
    cases ho
  -- the last transaction is pending only if it was sent in the second part
  have hpending :
      Pending config commitment (t₁ ++ t₂) → Pending config commitment t₂ := by
    intro ⟨limit, ⟨params, checkpoint, hlast, hlimit⟩, hopen⟩
    by_cases hnone : Wire.checkpoints config t₂ = []
    · rw [Wire.sinceCheckpoint_append_of_eq_nil hnone] at hopen
      simp only [Wire.answers_append, hnone, List.append_nil] at hlast
      have hopen₁ : Open config commitment limit (Wire.sinceCheckpoint t₁) := by
        obtain ⟨⟨b, hb, haccepts⟩, hsettled⟩ := hopen
        simp only [Wire.answers_append, h₂.receipts hnone, List.append_nil] at hb
        exact ⟨⟨b, hb, haccepts⟩, fun h => hsettled (settled_append.2 (.inl h))⟩
      obtain ⟨o, ho, -⟩ := h₁.pending ⟨limit, ⟨params, checkpoint, hlast, hlimit⟩, hopen₁⟩
      cases ho
    · rw [Wire.sinceCheckpoint_append_of_ne_nil hnone] at hopen
      simp only [Wire.answers_append, List.getLast?_append_of_ne_nil _ hnone] at hlast
      exact ⟨limit, ⟨params, checkpoint, hlast, hlimit⟩, hopen⟩
  refine ⟨⟨?confirmed, ?last, fun h => h₂.pending (hpending h), ?unknown⟩, ?receipts⟩
  case confirmed =>
    intro hconfirmed
    exact h₂.confirmed ((confirmed_append.1 hconfirmed).resolve_left hconfirmed₁)
  case last =>
    intro o ho hv
    obtain ⟨b, hb, hc⟩ := h₂.last o ho hv
    exact ⟨b, Wire.getLast?_answers_append hb, hc⟩
  case unknown =>
    intro o ho hv
    obtain ⟨⟨limit, ⟨params, checkpoint, hlast, hlimit⟩, hopen⟩, hexhausted⟩ := h₂.unknown o ho hv
    have hne : Wire.checkpoints config t₂ ≠ [] := by
      intro hnone
      rw [hnone] at hlast
      cases hlast
    have hsince : Wire.sinceCheckpoint (t₁ ++ t₂) = Wire.sinceCheckpoint t₂ :=
      Wire.sinceCheckpoint_append_of_ne_nil hne
    rw [Pending, Exhausted, hsince]
    exact ⟨⟨limit, ⟨params, checkpoint, Wire.getLast?_answers_append hlast, hlimit⟩, hopen⟩,
      hexhausted⟩
  case receipts =>
    intro h
    simp only [Wire.answers_append, List.append_eq_nil_iff] at h ⊢
    exact ⟨h₁.receipts h.1, h₂.receipts h.2⟩

/-- What happens on the machine in the end does not count. -/
theorem append_host (h : OperationTells config commitment timeout t₁ r)
    (ht : Host.Only .host t₂) (htimes : Wire.times t₂ = []) :
    OperationTells config commitment timeout (t₁ ++ t₂) r := by
  have hsilent : Silent config t₂ := silent_of_host ht
  have hnone : Wire.checkpoints config t₂ = [] := Wire.answers_of_host ht
  have hstatuses : Wire.statuses config (t₁ ++ t₂) = Wire.statuses config t₁ := by
    simp [hsilent.statuses]
  have hsince : Wire.sinceCheckpoint (t₁ ++ t₂) = Wire.sinceCheckpoint t₁ ++ t₂ :=
    Wire.sinceCheckpoint_append_of_eq_nil hnone
  have hpending :
      Pending config commitment (t₁ ++ t₂) ↔ Pending config commitment t₁ := by
    simp only [Pending, LimitTold, hsince, hsilent.append_open_iff, Wire.answers_append, hnone,
      List.append_nil]
  have hexhausted : ∀ s, Exhausted config timeout (t₁ ++ t₂) s ↔
      Exhausted config timeout t₁ s := by
    simp [Exhausted, hsince, hsilent.statuses, htimes]
  refine ⟨⟨?confirmed, ?last, fun hp => h.pending (hpending.1 hp), ?unknown⟩, ?receipts⟩
  case confirmed =>
    intro hconfirmed
    exact h.confirmed ((confirmed_of_statuses hstatuses).1 hconfirmed)
  case last =>
    rw [hstatuses]
    exact h.last
  case unknown =>
    intro o ho hv
    rw [hpending, hexhausted]
    exact h.unknown o ho hv
  case receipts =>
    intro h'
    simp only [Wire.answers_append, hnone, hsilent.receipts, List.append_nil] at h' ⊢
    exact h.receipts h'

/-- Only the verdict and the signature of an outcome count. -/
theorem map {g : Outcome → Outcome} (h : OperationTells config commitment timeout t r)
    (hg : ∀ o, (g o).verdict = o.verdict ∧ (g o).signature = o.signature) :
    OperationTells config commitment timeout t (r.map g) := by
  have hmap : ∀ o', r.map g = .ok o' ↔ ∃ o, r = .ok o ∧ g o = o' := by
    cases r <;> simp [Except.map]
  -- an outcome with some verdict is mapped to one with the same verdict
  have hverdict : ∀ v, (∃ o, r = .ok o ∧ o.verdict = v) → ∃ o, r.map g = .ok o ∧ o.verdict = v :=
    fun v ⟨o, ho, hv⟩ => ⟨g o, (hmap _).2 ⟨o, ho, rfl⟩, (hg o).1.trans hv⟩
  refine ⟨⟨fun hc => hverdict _ (h.confirmed hc), ?last, fun hp => hverdict _ (h.pending hp),
    ?unknown⟩, h.receipts⟩
  case last =>
    intro o' ho' hv
    obtain ⟨o, ho, rfl⟩ := (hmap o').1 ho'
    rw [(hg o).2]
    exact h.last o ho ((hg o).1.symm.trans hv)
  case unknown =>
    intro o' ho' hv
    obtain ⟨o, ho, rfl⟩ := (hmap o').1 ho'
    rw [(hg o).2]
    exact h.unknown o ho ((hg o).1.symm.trans hv)

/-- What happens on the machine in the beginning does not count. -/
theorem host_append (ht : Host.Only .host t₁)
    (h : OperationTells config commitment timeout t₂ r) :
    OperationTells config commitment timeout (t₁ ++ t₂) r := by
  have hbefore : OperationTells config commitment timeout t₁ (.error (.of .runtime)) :=
    tells_of_unsent (Wire.answers_of_host ht) (Wire.answers_of_host ht)
  exact hbefore.append h

end OperationTells

/-! ## Attempts -/

variable {c : Client τ} {config : SessionConfig τ} {instruction : Instruction}

theorem attempt_tells
    (h : Run (attempt Wire.host (Session.ledger Wire.host Wire.transport config) c instruction) t r)
    (hclient : FailsOnly Failure.IsClient r) :
    OperationTells config c.commitment c.polling.timeout t r := by
  obtain ⟨t₁, checkpoint, t₂, hcheckpoint, hrest, rfl⟩ | ⟨f, hcheckpoint, rfl⟩ := run_bind.1 h
  · have hheard := Session.call_heard hcheckpoint (.ok _)
    obtain ⟨_, envelope, _, hassemble, hsubmit, rfl⟩ | ⟨f, hassemble, rfl⟩ := run_bind.1 hrest
    · have hstamped : envelope.checkpoint = checkpoint := by
        obtain ⟨_, -, -, hassembled⟩ := Envelope.assemble_ok_iff.1 hassemble
        cases hassembled
        rfl
      obtain rfl := Key.assemble_nil hassemble
      obtain ⟨_, -, t₃, rfl, hsubmit, rfl⟩ := run_lift_bind.1 hsubmit
      have htells := submit_tells hsubmit hclient
      rw [hstamped] at htells
      rw [List.nil_append, ← List.append_assoc]
      exact tells_of_submission (hheard.append_logged _) (submit_checkpoints hsubmit hclient) htells
    · obtain rfl := Key.assemble_nil hassemble
      rw [List.append_nil]
      exact tells_of_unsent (hheard.answers_eq_nil (by decide)) (hheard.answers_eq_nil (by decide))
  · have hheard := Session.call_heard hcheckpoint (.error (hclient rfl))
    exact tells_of_unsent (hheard.answers_eq_nil (by decide)) (hheard.answers_eq_nil (by decide))

theorem attempts_tells {left : Nat} : ∀ {n : Nat} {last : StaleFault} {t : List (Wire.Event τ)}
    {r : Except Failure Outcome},
    Run (attempts Wire.host (Session.ledger Wire.host Wire.transport config) c instruction left n
      last) t r → FailsOnly Failure.IsClient r →
      OperationTells config c.commitment c.polling.timeout t r := by
  induction left with
  | zero =>
    intro n last t r h hclient
    obtain ⟨rfl, rfl⟩ := run_throw.1 h
    exact tells_of_unsent rfl rfl
  | succ left ih =>
    intro n last t r h hclient
    rw [attempts, run_mk, bind_iff] at h
    obtain ⟨t₁, answer, t₂, hattempt, hr, rfl⟩ := h
    split at hr
    · next outcome =>
      obtain ⟨rfl, rfl⟩ := pure_iff.1 hr
      rw [List.append_nil]
      exact (attempt_tells hattempt (.ok _)).map (g := fun o => { o with attempts := n })
        fun o => ⟨rfl, rfl⟩
    · next fault =>
      obtain ⟨_, -, t₃, rfl, hlater, rfl⟩ := bind_iff.1 hr
      refine (attempt_tells hattempt (.error ⟨_, rfl⟩)).append ?_
      exact .host_append Host.Only.nil.cons (ih hlater hclient)
    · next failure hstale =>
      obtain ⟨rfl, rfl⟩ := pure_iff.1 hr
      rw [List.append_nil]
      exact attempt_tells hattempt (.error (hclient rfl))

/-- The result of an operation is confirmed exactly if the last answer about a status confirms, and
unknown exactly if the last transaction is pending. -/
theorem execute_tells
    (h : Run (execute Wire.host (Session.ledger Wire.host Wire.transport config) c instruction) t r)
    (hclient : FailsOnly Failure.IsClient r) :
    OperationTells config c.commitment c.polling.timeout t r := by
  rw [execute, run_mk, bind_iff] at h
  obtain ⟨_, -, _, rfl, h₁, rfl⟩ := h
  obtain ⟨_, -, _, rfl, h₂, rfl⟩ := bind_iff.1 h₁
  obtain ⟨t', result, _, hattempts, h₃, rfl⟩ := bind_iff.1 h₂
  obtain ⟨_, -, _, rfl, h₄, rfl⟩ := bind_iff.1 h₃
  obtain ⟨_, -, _, rfl, ⟨rfl, rfl⟩, rfl⟩ := bind_iff.1 h₄
  have htells := attempts_tells hattempts hclient
  refine .host_append Host.Only.nil.cons (.host_append Host.Only.nil.cons ?_)
  exact htells.append_host Host.Only.nil.cons.cons rfl

/-- Where an operation fails before it begins, nothing was sent. -/
theorem tells_of_except {α : Type} {x : Except Failure α}
    {f : α → ExceptT Failure (Behaviour (Wire.Event τ)) Outcome}
    (hf : ∀ ⦃a t r⦄, Run (f a) t r → FailsOnly Failure.IsClient r →
      OperationTells config commitment timeout t r)
    (h : Run (liftM x >>= f) t r) (hclient : FailsOnly Failure.IsClient r) :
    OperationTells config commitment timeout t r := by
  obtain ⟨_, a, _, hx, hrest, rfl⟩ | ⟨f, hx, rfl⟩ := run_bind.1 h
  · obtain ⟨rfl, -⟩ := run_except.1 hx
    exact hf hrest hclient
  · obtain ⟨rfl, -⟩ := run_except.1 hx
    exact tells_of_unsent rfl rfl

theorem perform_tells {instruction : Except ClientError Instruction}
    (h : Run (perform Wire.host (Session.ledger Wire.host Wire.transport config) c instruction) t r)
    (hclient : FailsOnly Failure.IsClient r) :
    OperationTells config c.commitment c.polling.timeout t r :=
  tells_of_except (fun _ _ _ => execute_tells) h hclient

theorem sendRequest_tells {draft : Draft}
    (h : Run (sendRequest Wire.host (Session.ledger Wire.host Wire.transport config) c draft) t r)
    (hclient : FailsOnly Failure.IsClient r) :
    OperationTells config c.commitment c.polling.timeout t r := by
  refine tells_of_except (fun name t r h => ?_) h hclient
  exact tells_of_except (fun _ _ _ => perform_tells) h

end

end StorageAgent.Client
