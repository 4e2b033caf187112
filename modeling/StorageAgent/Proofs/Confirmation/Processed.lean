import StorageAgent.Proofs.Confirmation.Dialogue
import StorageAgent.Proofs.Seconds

/-!
# A transaction that was processed before

A cluster that refuses to process a transaction again has seen it. The client then
polls for its status as if it had been accepted, and polling does not know how it
was entered.

* `processed_stale_iff`: such a submission ends in a stale checkpoint exactly if a
  later answer says so: a height past the limit, or an error of its own.
* `stale_after_processed`: a node that lags behind gives such answers.
-/
namespace StorageAgent.Confirmation

open Behaviour

variable {τ : Type} {commitment : Commitment} {polling : Polling τ} {signature limit : Json}
  {envelope : Envelope}

/-- An answer after which polling ends in a stale checkpoint. -/
def TellsStale (limit : Json) : Dialogue.Event τ → Prop
  | .ledger (.status _ (.error f)) => f.isStale = true
  | .ledger (.height (.error f)) => f.isStale = true
  | .ledger (.height (.ok height)) => height.exceeds? limit = some true
  | _ => False

theorem not_transport_of_stale {f : Failure} (hf : f.isStale = true) : f.isTransport = false := by
  cases f with
  | fault kind message => rfl
  | client error =>
    cases error with
    | transport fault => cases hf
    | _ => rfl

theorem ofPairFault_not_stale (fault : PairFault) : (Failure.ofPairFault fault).isStale = false := by
  cases fault <;> rfl

theorem status_tellsStale : FaultsBy (fun f => f.isStale = true) (fun _ => False)
    (TellsStale (τ := τ) limit) statusFault (Dialogue.ledger.status signature) := by
  intro t answer h
  rw [Dialogue.status_run.1 h]
  cases answer with
  | error f =>
    cases hf : f.isStale with
    | false => simp [TellsStale, statusFault, hf]
    | true => simp [TellsStale, statusFault, hf, not_transport_of_stale hf]
  | ok status =>
    cases status with
    | none => simp [TellsStale, statusFault]
    | some status =>
      have hn : ∀ f, statusFault (.ok (some status)) = some f → f.isStale = false := by
        intro f hf
        rw [statusFault] at hf
        split at hf
        · cases hf
          exact ofPairFault_not_stale _
        · cases hf
      simpa [TellsStale] using hn

theorem height_tellsStale : FaultsBy (fun f => f.isStale = true) (fun _ => False)
    (TellsStale (τ := τ) limit) (heightFault signature limit) Dialogue.ledger.height := by
  intro t answer h
  rw [Dialogue.height_run.1 h]
  cases answer with
  | error f =>
    cases hf : f.isStale with
    | false => simp [TellsStale, heightFault, hf]
    | true => simp [TellsStale, heightFault, hf, not_transport_of_stale hf]
  | ok height =>
    rcases hx : height.exceeds? limit with _ | _ | _ <;>
      simp [TellsStale, heightFault, hx, Failure.isStale, Failure.of]

variable [Seconds τ]

theorem await_tellsStale : FailsBy (fun f => f.isStale = true) (fun _ => False) (TellsStale limit)
    (await Dialogue.host Dialogue.ledger commitment polling signature limit) :=
  await_failsBy (fun _ h => h)
    (poll_failsBy (fun _ h => h) status_tellsStale height_tellsStale)

theorem processed_stale_iff {t : List (Dialogue.Event τ)} {r : Except Failure Outcome}
    {rejection : Rejection}
    (hrun : Run (submit Dialogue.host Dialogue.ledger commitment polling envelope) t r)
    (hsent : .ledger (.sent envelope.raw (.error (.client (.rejected rejection)))) ∈ t)
    (hprocessed : rejection.alreadyProcessed = true) :
    (∃ f, r = .error f ∧ f.isStale = true) ↔
      ∃ e ∈ t, TellsStale envelope.checkpoint.lastValidHeight e := by
  rcases submit_run hrun with ⟨f, hf, rfl⟩ | ⟨t₁, signature, t₂, t₃, h₁, h₂, rfl, h₃⟩
  · -- a refusal is the only answer to the send, and it was none
    cases hf with
    | refused h hn =>
      rw [Dialogue.send_run.1 h, List.mem_singleton] at hsent
      cases hsent
      rw [hn rejection rfl] at hprocessed
      cases hprocessed
  · have hsilent : ∀ e ∈ t₁ ++ t₂, ¬ TellsStale envelope.checkpoint.lastValidHeight e := by
      refine List.forall_mem_append.2 ⟨?_, h₂.forall_mem fun _ h => h⟩
      cases h₁ with
      | accepted h => rw [Dialogue.send_run.1 h]; simp [TellsStale]
      | processed h => rw [Dialogue.send_run.1 h]; simp [TellsStale]
    have hpolled := await_tellsStale h₃
    simp only [and_false, exists_false, or_false] at hpolled
    rw [hpolled, ← List.append_assoc, exists_append_iff]
    rintro ⟨e, he, htells⟩
    exact hsilent e he htells

/-! ## A node that lags behind -/

/-- The answer of a cluster that has already processed the envelope. -/
def seen : Rejection :=
  { message := "transaction failed: AlreadyProcessed", reason := .text "AlreadyProcessed" }

/-- A submission that was processed before, up to its first poll. -/
def afterSeen (t : List (Dialogue.Event ℚ)) : List (Dialogue.Event ℚ) :=
  .ledger (.sent shortLived.raw (.error (.client (.rejected seen)))) ::
    .host (.logged (line .info
      s!"Transaction {shortLived.signature} already processed, polling its status")) ::
    .host (.logged (line .info s!"Sent transaction {(Json.text shortLived.signature).display}")) ::
    .host (.read 0) :: .host (.read 0) :: t

theorem afterSeen_run {t : List (Dialogue.Event ℚ)} {r : Except Failure Outcome}
    (h : Run (poll Dialogue.host Dialogue.ledger .confirmed (.text "signature") (.int 100)) t
      (r.map some)) :
    Run (submit Dialogue.host Dialogue.ledger .confirmed (.every 60 1 5) shortLived) (afterSeen t)
      r := by
  refine submit_of_signature [_, _] (send_of_processed (t := [_]) rfl (by decide)) ?_
  exact await_first every_rounds_ne_zero (by decide +kernel) h

/-- If the first status is there, no answer tells of a stale checkpoint, and none is the result. -/
theorem confirmed_after_processed :
    ∃ t o, Run (submit Dialogue.host Dialogue.ledger .confirmed (.every 60 1 5) shortLived)
        (afterSeen t) (.ok o) ∧
      ¬ ∃ e ∈ afterSeen t, TellsStale shortLived.checkpoint.lastValidHeight e := by
  let status : SignatureStatus := ⟨.int 42, .int 3, .text "confirmed", .null⟩
  have hrun := afterSeen_run (r := .ok _) (poll_of_status status [_] rfl
    (decided_of_reached rfl (by decide)))
  refine ⟨_, _, hrun, fun htells => ?_⟩
  obtain ⟨_, hf, -⟩ := (processed_stale_iff hrun List.mem_cons_self (by decide)).2 htells
  cases hf

/-- A node that does not have the status yet, at a height past the limit. -/
theorem stale_after_processed :
    Run (submit Dialogue.host Dialogue.ledger .confirmed (.every 60 1 5) shortLived)
        (afterSeen [.ledger (.status (.text "signature") (.ok none)),
          .ledger (.height (.ok (.int 101)))])
        (.error (.client (.stale (.expired (.text "signature") (.int 100) (.int 101))))) ∧
      seen.alreadyProcessed = true :=
  ⟨afterSeen_run (poll_of_height [_] [_] rfl rfl rfl rfl), by decide⟩

end StorageAgent.Confirmation
