import StorageAgent.Client
import StorageAgent.Pool

/-!
# What an operation does with the lock

An operation takes the lock, does its work, and gives the lock back, whatever the work comes to. The
work itself, however long it is, leaves the lock alone, if the ledger does.

* `Client.execute_eq`: an operation is its work between the two.
* `Client.work_leavesLock`: the work leaves the lock alone.
* `Session.ledger_leavesLock`: the ledger of a session does so too.
-/
namespace StorageAgent

/-- Whether a query is about the lock. -/
def Query.OnLock {τ : Type} : Query τ → Prop
  | acquire => True
  | release => True
  | _ => False

namespace Routine

variable {τ α β γ : Type}

theorem bind_assoc (x : Routine τ α) (f : α → Routine τ β) (g : β → Routine τ γ) :
    (x >>= f) >>= g = x >>= fun a => f a >>= g := by
  induction x with
  | ended a => rfl
  | asks query next ih => exact congrArg (asks query) (funext ih)

/-- A routine that asks nothing about the lock. -/
def LeavesLock : Routine τ α → Prop
  | ended _ => True
  | asks query next => ¬ query.OnLock ∧ ∀ a, (next a).LeavesLock

theorem LeavesLock.bind {x : Routine τ α} {f : α → Routine τ β} (hx : x.LeavesLock)
    (hf : ∀ a, (f a).LeavesLock) : (x >>= f).LeavesLock := by
  induction x with
  | ended a => exact hf a
  | asks query next ih => exact ⟨hx.1, fun a => ih a (hx.2 a)⟩

theorem leavesLock_ask {query : Query τ} (h : ¬ query.OnLock) : (ask query).LeavesLock :=
  ⟨h, fun _ => trivial⟩

/-- A computation that may fail, and asks nothing about the lock. -/
def Lockless (x : ExceptT Failure (Routine τ) α) : Prop := x.run.LeavesLock

namespace Lockless

theorem pure (a : α) : Lockless (pure a : ExceptT Failure (Routine τ) α) := trivial

theorem throw (f : Failure) : Lockless (throw f : ExceptT Failure (Routine τ) α) := trivial

theorem except (x : Except Failure α) : Lockless (liftM x : ExceptT Failure (Routine τ) α) :=
  trivial

theorem lift {x : Routine τ α} (h : x.LeavesLock) :
    Lockless (liftM x : ExceptT Failure (Routine τ) α) :=
  h.bind fun _ => trivial

theorem ask {query : Query τ} (h : ¬ query.OnLock) :
    Lockless (liftM (Routine.ask query) : ExceptT Failure (Routine τ) query.Answer) :=
  lift (leavesLock_ask h)

theorem bind {x : ExceptT Failure (Routine τ) α} {f : α → ExceptT Failure (Routine τ) β}
    (hx : Lockless x) (hf : ∀ a, Lockless (f a)) : Lockless (x >>= f) := by
  refine LeavesLock.bind hx fun r => ?_
  cases r with
  | ok a => exact hf a
  | error f => trivial

theorem check_bind {p : Prop} [Decidable p] {e : Failure}
    {f : Unit → ExceptT Failure (Routine τ) α} (hf : Lockless (f ())) :
    Lockless (if p then (MonadExcept.throw e >>= f) else f ()) := by
  by_cases hp : p
  · rw [if_pos hp]
    exact bind (throw e) fun u => hf
  · rwa [if_neg hp]

end Lockless
end Routine

open Routine

variable {τ α : Type}

/-- A ledger that leaves the lock of its clients alone. -/
structure Ledger.LeavesLock (ledger : Ledger (Routine τ)) : Prop where
  latestBlockhash : Lockless ledger.latestBlockhash
  send : ∀ raw, Lockless (ledger.send raw)
  status : ∀ signature, Lockless (ledger.status signature)
  height : Lockless ledger.height

variable [Seconds τ]

/-! ## Retried calls -/

section
variable {b : Backoff τ} {description : String} {operation : ExceptT Failure (Routine τ) α}

theorem Backoff.delay_lockless (n : Int) : Lockless (b.delay Routine.host n) := by
  unfold delay
  split
  · exact .throw _
  · split
    · exact .bind (.ask nofun) fun _ => .pure _
    · exact .pure _

theorem Backoff.attempts_lockless (hop : Lockless operation) : ∀ left n,
    Lockless (attempts Routine.host b description operation left n) := by
  intro left
  induction left with
  | zero => exact fun _ => .throw _
  | succ left ih =>
    intro n
    refine LeavesLock.bind hop fun r => ?_
    split
    · split
      · trivial
      · exact Lockless.bind (Backoff.delay_lockless _) fun d => .bind (.ask nofun) fun _ =>
          .bind (.ask nofun) fun _ => ih _
    · trivial

end

/-! ## Sessions -/

namespace Session

variable {config : SessionConfig τ} {method : String} {params : List Json}

omit [Seconds τ] in
theorem exchange_lockless :
    Lockless (exchange (τ := τ) Routine.host Routine.transport config method params) := by
  refine .bind (.ask nofun) fun id => .bind (.ask nofun) fun _ => ?_
  refine .check_bind (.check_bind (.bind (.ask nofun) fun reply => .check_bind ?_))
  exact .except _

theorem call_lockless : Lockless (call Routine.host Routine.transport config method params) :=
  Backoff.attempts_lockless exchange_lockless _ _

theorem ledger_leavesLock : (ledger Routine.host Routine.transport config).LeavesLock where
  latestBlockhash := .bind call_lockless fun _ => .except _
  send _ := .bind call_lockless fun _ => .except _
  status _ := .bind call_lockless fun _ => .except _
  height := .bind call_lockless fun _ => .except _

end Session

/-! ## Confirmation -/

namespace Confirmation

variable {ledger : Ledger (Routine τ)} {commitment : Commitment} {polling : Polling τ}
  {signature limit : Json} {envelope : Envelope}

omit [Seconds τ] in
theorem tolerate_lockless {describe : TransportFault → String}
    {question : ExceptT Failure (Routine τ) α} (h : Lockless question) :
    Lockless (tolerate Routine.host describe question) := by
  refine LeavesLock.bind h fun r => ?_
  split
  · trivial
  · exact ⟨nofun, fun _ => trivial⟩
  · trivial

omit [Seconds τ] in
theorem decided_lockless {status : SignatureStatus} :
    Lockless (decided (τ := τ) Routine.host commitment signature status) := by
  unfold decided
  split
  · exact .bind (.except _) fun _ => .bind (.ask nofun) fun _ => .pure _
  · split
    · exact .bind (.ask nofun) fun _ => .pure _
    · exact .pure _

omit [Seconds τ] in
theorem poll_lockless (h : ledger.LeavesLock) :
    Lockless (poll Routine.host ledger commitment signature limit) := by
  refine .bind (tolerate_lockless (h.status _)) fun answer => ?_
  split
  · exact .pure _
  · exact decided_lockless
  · split
    · exact .pure _
    · refine .bind (.bind (tolerate_lockless h.height) fun height => ?_) fun _ => .pure _
      split
      · exact .pure _
      · split
        · exact .throw _
        · exact .throw _
        · exact .pure _

theorem timedOut_lockless : Lockless (timedOut Routine.host polling signature) :=
  .bind (.ask nofun) fun _ => .pure _

theorem pollFrom_lockless (h : ledger.LeavesLock) {start : τ} : ∀ (rounds : Nat) (interval : τ),
    Lockless (pollFrom Routine.host ledger commitment polling signature limit start rounds
      interval) := by
  intro rounds
  induction rounds with
  | zero => exact fun _ => .throw _
  | succ rounds ih =>
    intro interval
    refine .bind (.ask nofun) fun now => ?_
    split
    · exact timedOut_lockless
    refine .bind (poll_lockless h) fun outcome => ?_
    split
    · exact .pure _
    refine .bind (.ask nofun) fun later => ?_
    dsimp only
    split
    · exact timedOut_lockless
    · exact .bind (.ask nofun) fun _ => ih _

omit [Seconds τ] in
theorem send_lockless (h : ledger.LeavesLock) : Lockless (send Routine.host ledger envelope) := by
  refine LeavesLock.bind (h.send _) fun r => ?_
  split
  · split
    · exact ⟨nofun, fun _ => trivial⟩
    · trivial
  · trivial

theorem submit_lockless (h : ledger.LeavesLock) :
    Lockless (submit Routine.host ledger commitment polling envelope) := by
  refine .bind (send_lockless h) fun signature => ?_
  have hawait : Lockless (await Routine.host ledger commitment polling signature
      envelope.checkpoint.lastValidHeight) :=
    .bind (.ask nofun) fun _ => pollFrom_lockless h _ _
  dsimp only
  split
  · exact .bind (.ask nofun) fun _ => .bind (.ask nofun) fun _ => hawait
  · exact .bind (.ask nofun) fun _ => hawait

end Confirmation

/-! ## Operations -/

namespace Client

variable {ledger : Ledger (Routine τ)} {c : Client τ} {instruction : Instruction}

omit [Seconds τ] in
theorem assemble_lockless {checkpoint : Option Checkpoint} :
    Lockless (Envelope.assemble (c.signer : Signer (Routine τ)) c.unitLimit instruction
      checkpoint) := by
  unfold Envelope.assemble
  generalize Crypto.Ed25519.verify = verify
  split
  · split
    · refine .bind (.lift trivial) fun payer => .check_bind (.bind (.lift trivial) fun first => ?_)
      refine .check_bind (.bind trivial fun signature => ?_)
      exact .check_bind (.check_bind (.pure _))
    · exact .throw _
  · exact .throw _

theorem attempt_lockless (h : ledger.LeavesLock) :
    Lockless (attempt Routine.host ledger c instruction) :=
  .bind h.latestBlockhash fun _ => .bind assemble_lockless fun _ => .bind (.ask nofun) fun _ =>
    Confirmation.submit_lockless h

theorem attempts_lockless (h : ledger.LeavesLock) : ∀ left n last,
    Lockless (attempts Routine.host ledger c instruction left n last) := by
  intro left
  induction left with
  | zero => exact fun _ _ => .throw _
  | succ left ih =>
    intro n last
    refine LeavesLock.bind (attempt_lockless h) fun r => ?_
    split
    · trivial
    · exact ⟨nofun, fun _ => ih _ _⟩
    · trivial

/-- What an operation does while it has the lock. -/
def work (ledger : Ledger (Routine τ)) (c : Client τ) (instruction : Instruction) :
    Routine τ (Except Failure Outcome) :=
  .asks (.setContext (some ⟨instruction.opcode.name, c.caller.text⟩)) fun _ =>
    (attempts Routine.host ledger c instruction (c.staleRetries + 1) 1 .noAttempt).run >>= fun r =>
      .asks (.setContext none) fun _ => .ended r

theorem work_leavesLock (h : ledger.LeavesLock) : (work ledger c instruction).LeavesLock :=
  ⟨nofun, fun _ => LeavesLock.bind (attempts_lockless h _ _ _) fun _ => ⟨nofun, fun _ => trivial⟩⟩

/-- An operation takes the lock, works, and gives the lock back. -/
theorem execute_eq : (execute Routine.host ledger c instruction).run =
    .asks .acquire fun _ => work ledger c instruction >>= fun r =>
      .asks .release fun _ => .ended r := by
  refine congrArg (Routine.asks .acquire) (funext fun _ => ?_)
  refine congrArg (Routine.asks (.setContext _)) (funext fun _ => ?_)
  exact (bind_assoc (attempts Routine.host ledger c instruction _ _ _).run
    (fun r => .asks (.setContext none) fun _ => .ended r)
    fun r => .asks .release fun _ => .ended r).symm

end Client
end StorageAgent
