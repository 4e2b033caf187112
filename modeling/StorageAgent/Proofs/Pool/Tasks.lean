import StorageAgent.Proofs.Pool.Lockless

/-!
# Tasks of a client

A task calls operations of a client, one after the other, and decides by their results how it goes
on. In between it may do anything that concerns no one else: look at the clock, sleep, report.

* `Routine.Reaches`: how far a routine has come, and its traffic with the endpoint so far.
* `Task.Goes`: how far a task has come, and the operations that it called so far.
* `Task.exists_settled`: what a task does next.
-/
namespace StorageAgent

open Routine

variable {τ α β : Type}

/-! ## Traffic with the endpoint -/

/-- What happens between a client and its endpoint: a request goes out, or its reply comes in. -/
inductive Traffic where
  | sent (request : RpcRequest)
  | received (request : RpcRequest) (reply : Reply)

/-- The traffic of a query. -/
def Query.traffic : (query : Query τ) → query.Answer → List Traffic
  | .post request, reply => [.sent request, .received request reply]
  | _, _ => []

/-- Whether a query is a call. -/
def Query.IsCall : Query τ → Prop
  | .post _ => True
  | _ => False

/-- Whether a query concerns no one but who asks. -/
def Query.IsOwn : Query τ → Prop
  | .now => True
  | .sleep _ => True
  | .draw => True
  | .log _ => True
  | .setContext _ => True
  | _ => False

theorem Query.IsOwn.not_onLock {query : Query τ} (h : query.IsOwn) : ¬ query.OnLock := by
  cases query <;> simp_all [IsOwn, OnLock]

theorem Query.traffic_eq_nil {query : Query τ} (h : ¬ query.IsCall) (a : query.Answer) :
    query.traffic a = [] := by
  cases query with
  | post request => exact absurd trivial h
  | _ => rfl

/-- Every query can be answered. -/
def Query.anyAnswer [Seconds τ] : (query : Query τ) → query.Answer
  | .now => (Seconds.zero : τ)
  | .sleep _ => ()
  | .draw => (Seconds.zero : τ)
  | .log _ => ()
  | .setContext _ => ()
  | .acquire => ()
  | .release => ()
  | .nextId => (0 : Nat)
  | .post _ => Reply.unreachable "" ""

namespace Routine

/-- A routine comes to a point behind this traffic. -/
inductive Reaches : Routine τ α → List Traffic → Routine τ α → Prop where
  | refl (x : Routine τ α) : Reaches x [] x
  | asks {query : Query τ} {next : query.Answer → Routine τ α} {s : List Traffic} {y : Routine τ α}
      (a : query.Answer) (h : Reaches (next a) s y) :
      Reaches (.asks query next) (query.traffic a ++ s) y

theorem Reaches.trans {x y z : Routine τ α} {s₁ s₂ : List Traffic} (h₁ : Reaches x s₁ y)
    (h₂ : Reaches y s₂ z) : Reaches x (s₁ ++ s₂) z := by
  induction h₁ with
  | refl => exact h₂
  | asks a _ ih =>
    rw [List.append_assoc]
    exact .asks a (ih h₂)

/-- One answer more. -/
theorem Reaches.answered {x : Routine τ α} {s : List Traffic} {query : Query τ}
    {next : query.Answer → Routine τ α} (h : Reaches x s (.asks query next)) (a : query.Answer) :
    Reaches x (s ++ query.traffic a) (next a) := by
  have hone : Reaches (.asks query next) (query.traffic a ++ []) (next a) := .asks a (.refl _)
  rw [List.append_nil] at hone
  exact h.trans hone

theorem Reaches.bind {x y : Routine τ α} {s : List Traffic} (h : Reaches x s y)
    (f : α → Routine τ β) : Reaches (x >>= f) s (y >>= f) := by
  induction h with
  | refl => exact .refl _
  | asks a _ ih => exact .asks a ih

theorem LeavesLock.reaches {x y : Routine τ α} {s : List Traffic} (hx : x.LeavesLock)
    (h : Reaches x s y) : y.LeavesLock := by
  induction h with
  | refl => exact hx
  | asks a _ ih => exact ih (hx.2 a)

/-- From every point a routine can come to an end. -/
theorem exists_reaches_ended [Seconds τ] (x : Routine τ α) : ∃ s a, Reaches x s (.ended a) := by
  induction x with
  | ended a => exact ⟨[], a, .refl _⟩
  | asks query next ih =>
    obtain ⟨s, a, h⟩ := ih query.anyAnswer
    exact ⟨_, a, .asks _ h⟩

end Routine

/-! ## Operations and tasks -/

/-- What a client can be asked to do. -/
inductive Operation where
  | execute (instruction : Instruction)
  | initBookkeeper
  | registerClient
  | removeClient (clientId : Argument)
  | sendRequest (draft : Draft)

/-- The routine of an operation. -/
def Operation.routine [Seconds τ] (ledger : Ledger (Routine τ)) (c : Client τ) :
    Operation → Routine τ (Except Failure Outcome)
  | execute instruction => (Client.execute Routine.host ledger c instruction).run
  | initBookkeeper => (Client.initBookkeeper Routine.host ledger c).run
  | registerClient => (Client.registerClient Routine.host ledger c).run
  | removeClient clientId => (Client.removeClient Routine.host ledger c clientId).run
  | sendRequest draft => (Client.sendRequest Routine.host ledger c draft).run

/-- A task that calls operations: it has ended, asks for something that concerns no one else, or
calls an operation and goes on with its result. -/
inductive Task (τ α : Type) where
  | ended (a : α)
  | asks (query : Query τ) (hquery : query.IsOwn) (next : query.Answer → Task τ α)
  | calls (operation : Operation) (next : Except Failure Outcome → Task τ α)

/-- The routine of a task. -/
def Task.routine [Seconds τ] (ledger : Ledger (Routine τ)) (c : Client τ) : Task τ α → Routine τ α
  | ended a => .ended a
  | asks query _ next => .asks query fun a => (next a).routine ledger c
  | calls operation next => operation.routine ledger c >>= fun r => (next r).routine ledger c

/-- An operation that was called: which task called it, by its place; its traffic with the endpoint;
and its result. -/
structure Turn where
  place : List Nat
  operation : Operation
  traffic : List Traffic
  result : Except Failure Outcome

section
variable [Seconds τ] {ledger : Ledger (Routine τ)} {c : Client τ} {operation : Operation}

/-- The traffic is that of the whole operation, from its begin to its end. -/
def Turn.Complete (ledger : Ledger (Routine τ)) (c : Client τ) (turn : Turn) : Prop :=
  (turn.operation.routine ledger c).Reaches turn.traffic (.ended turn.result)

/-- An operation that is given its instruction. -/
def Operation.Executes (ledger : Ledger (Routine τ)) (c : Client τ) (operation : Operation)
    (instruction : Instruction) : Prop :=
  operation.routine ledger c = (Client.execute Routine.host ledger c instruction).run

theorem perform_cases (x : Except ClientError Instruction) :
    (∃ f, (Client.perform Routine.host ledger c x).run = .ended (.error f)) ∨ ∃ instruction,
      (Client.perform Routine.host ledger c x).run =
        (Client.execute Routine.host ledger c instruction).run := by
  cases x with
  | error e => exact .inl ⟨_, rfl⟩
  | ok instruction => exact .inr ⟨instruction, rfl⟩

/-- An operation fails at once, before it takes the lock, or executes an instruction. -/
theorem Operation.refused_or_executes (ledger : Ledger (Routine τ)) (c : Client τ)
    (operation : Operation) :
    (∃ f, operation.routine ledger c = .ended (.error f)) ∨
      ∃ instruction, operation.Executes ledger c instruction := by
  cases operation with
  | execute instruction => exact .inr ⟨instruction, rfl⟩
  | initBookkeeper => exact perform_cases _
  | registerClient => exact perform_cases _
  | removeClient clientId => exact perform_cases _
  | sendRequest draft =>
    simp only [Executes, routine]
    unfold Client.sendRequest
    cases draft.name.convertText c.memory with
    | error f => exact .inl ⟨f, rfl⟩
    | ok name =>
      cases draft.data.convertText c.memory with
      | error f => exact .inl ⟨f, rfl⟩
      | ok data => exact perform_cases _

/-- What a task does with a result, once the lock is given back. -/
def Task.resume (ledger : Ledger (Routine τ)) (c : Client τ)
    (next : Except Failure Outcome → Task τ α) (r : Except Failure Outcome) : Routine τ α :=
  .asks .release fun _ => (next r).routine ledger c

/-- A task that executes an instruction takes the lock, works, and gives the lock back. -/
theorem Task.routine_calls {instruction : Instruction} (h : operation.Executes ledger c instruction)
    (next : Except Failure Outcome → Task τ α) :
    (Task.calls operation next).routine ledger c = .asks .acquire fun _ =>
      Client.work ledger c instruction >>= resume ledger c next := by
  have hroutine : (Task.calls operation next).routine ledger c =
      (Client.execute Routine.host ledger c instruction).run >>= fun r =>
        (next r).routine ledger c := by
    rw [← show operation.routine ledger c = _ from h]
    rfl
  rw [hroutine, Client.execute_eq, Routine.asks_bind]
  exact congrArg (Routine.asks .acquire) (funext fun _ => Routine.bind_assoc _ _ _)

/-- The traffic of the work is that of the whole operation. -/
theorem Operation.Executes.reaches {instruction : Instruction}
    (h : operation.Executes ledger c instruction) {s : List Traffic} {r : Except Failure Outcome}
    (hwork : (Client.work ledger c instruction).Reaches s (.ended r)) :
    (operation.routine ledger c).Reaches s (.ended r) := by
  rw [show operation.routine ledger c = _ from h, Client.execute_eq]
  have hworked := hwork.bind fun r => .asks .release fun _ => .ended r
  have hreleased : Reaches _ (s ++ []) (.ended r) := @Reaches.answered τ _ _ s .release _ hworked ()
  rw [List.append_nil] at hreleased
  exact @Reaches.asks τ _ .acquire _ s _ () hreleased

/-- A task comes to a point behind these operations. What is refused has no traffic. -/
inductive Task.Goes (ledger : Ledger (Routine τ)) (c : Client τ) :
    Task τ α → List Turn → Task τ α → Prop where
  | refl (task : Task τ α) : Goes ledger c task [] task
  | asked {query : Query τ} {hquery : query.IsOwn} {next : query.Answer → Task τ α}
      {turns : List Turn} {rest : Task τ α} (a : query.Answer)
      (h : Goes ledger c (next a) turns rest) : Goes ledger c (.asks query hquery next) turns rest
  | refused {operation : Operation} {next : Except Failure Outcome → Task τ α} {f : Failure}
      {turns : List Turn} {rest : Task τ α} (hop : operation.routine ledger c = .ended (.error f))
      (h : Goes ledger c (next (.error f)) turns rest) :
      Goes ledger c (.calls operation next) turns rest
  | called {turn : Turn} {next : Except Failure Outcome → Task τ α} {turns : List Turn}
      {rest : Task τ α} (hturn : turn.Complete ledger c)
      (h : Goes ledger c (next turn.result) turns rest) :
      Goes ledger c (.calls turn.operation next) (turn :: turns) rest

theorem Task.Goes.trans {task mid rest : Task τ α} {turns₁ turns₂ : List Turn}
    (h₁ : Goes ledger c task turns₁ mid) (h₂ : Goes ledger c mid turns₂ rest) :
    Goes ledger c task (turns₁ ++ turns₂) rest := by
  induction h₁ with
  | refl => exact h₂
  | asked a _ ih => exact .asked a (ih h₂)
  | refused hop _ ih => exact .refused hop (ih h₂)
  | called hturn _ ih => exact .called hturn (ih h₂)

/-- What a task does next can be seen: it has ended, asks for something, or takes the lock. -/
inductive Task.Settled (ledger : Ledger (Routine τ)) (c : Client τ) : Task τ α → Prop where
  | ended (a : α) : Settled ledger c (.ended a)
  | asks {query : Query τ} (hquery : query.IsOwn) (next : query.Answer → Task τ α) :
      Settled ledger c (.asks query hquery next)
  | calls {operation : Operation} {instruction : Instruction}
      (h : operation.Executes ledger c instruction) (next : Except Failure Outcome → Task τ α) :
      Settled ledger c (.calls operation next)

/-- Operations that are refused are passed over. -/
theorem Task.exists_settled (ledger : Ledger (Routine τ)) (c : Client τ) (task : Task τ α) :
    ∃ rest, Goes ledger c task [] rest ∧ rest.routine ledger c = task.routine ledger c ∧
      rest.Settled ledger c := by
  induction task with
  | ended a => exact ⟨_, .refl _, rfl, .ended a⟩
  | asks query hquery next => exact ⟨_, .refl _, rfl, .asks hquery next⟩
  | calls operation next ih =>
    obtain ⟨f, hop⟩ | ⟨instruction, hop⟩ := operation.refused_or_executes ledger c
    · obtain ⟨rest, hgoes, hroutine, hsettled⟩ := ih (.error f)
      refine ⟨rest, .refused hop hgoes, ?_, hsettled⟩
      rw [hroutine, Task.routine, hop]
      rfl
    · exact ⟨_, .refl _, rfl, .calls hop next⟩

end
end StorageAgent
