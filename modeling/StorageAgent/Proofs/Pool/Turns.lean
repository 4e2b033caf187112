import StorageAgent.Proofs.Client.Attempts
import StorageAgent.Proofs.Seconds
import StorageAgent.Proofs.Pool.Schedules

/-!
# Operations of one client, one after another

However the tasks of a client are scheduled, what the endpoint sees is the traffic of one whole
operation after another. At most one thread is inside the lock, and all that was sent since the
last operation ended belongs to its operation.

* `Outside`, `Inside`: a thread without the lock, and one that has it or waits for it.
* `Account`: the invariant of all schedules.
* `Course.one_after_another`: what follows from it for the traffic and for each task.
-/
namespace StorageAgent

open Routine

variable {τ α : Type} [Seconds τ]

/-! ## Tasks under way -/

/-- The operations that were called at a place. -/
def turnsAt (place : List Nat) (turns : List Turn) : List Turn :=
  turns.filter fun turn => turn.place = place

theorem turnsAt_concat_of_ne {place : List Nat} {turns : List Turn} {turn : Turn}
    (h : turn.place ≠ place) : turnsAt place (turns ++ [turn]) = turnsAt place turns := by
  simp [turnsAt, h]

theorem turnsAt_concat_self {turns : List Turn} {turn : Turn} :
    turnsAt turn.place (turns ++ [turn]) = turnsAt turn.place turns ++ [turn] := by
  simp [turnsAt]

section
variable {ledger : Ledger (Routine τ)} {c : Client τ} {tasks : List (Task τ α)}

/-- The task at a place has come to `rest`, `turns` being the operations of all tasks. -/
def Along (ledger : Ledger (Routine τ)) (c : Client τ) (tasks : List (Task τ α))
    (turns : List Turn) (place : List Nat) (rest : Task τ α) : Prop :=
  ∃ n task, place = [n] ∧ tasks[n]? = some task ∧ task.Goes ledger c (turnsAt place turns) rest

namespace Along

variable {turns : List Turn} {turn : Turn} {place : List Nat} {mid rest : Task τ α}

theorem goes (h : Along ledger c tasks turns place mid) (hgoes : mid.Goes ledger c [] rest) :
    Along ledger c tasks turns place rest := by
  obtain ⟨n, task, hplace, htask, hmid⟩ := h
  have hrest := hmid.trans hgoes
  rw [List.append_nil] at hrest
  exact ⟨n, task, hplace, htask, hrest⟩

/-- An operation elsewhere changes nothing. -/
theorem elsewhere (h : Along ledger c tasks turns place rest) (hne : turn.place ≠ place) :
    Along ledger c tasks (turns ++ [turn]) place rest := by
  obtain ⟨n, task, hplace, htask, hrest⟩ := h
  rw [← turnsAt_concat_of_ne hne] at hrest
  exact ⟨n, task, hplace, htask, hrest⟩

/-- The operation that a task called is complete. -/
theorem called {next : Except Failure Outcome → Task τ α}
    (h : Along ledger c tasks turns turn.place (.calls turn.operation next))
    (hturn : turn.Complete ledger c) :
    Along ledger c tasks (turns ++ [turn]) turn.place (next turn.result) := by
  obtain ⟨n, task, hplace, htask, hmid⟩ := h
  have hrest := hmid.trans (.called hturn (.refl _))
  rw [← turnsAt_concat_self] at hrest
  exact ⟨n, task, hplace, htask, hrest⟩

end Along

/-- The thread does not have the lock, nor does it wait for it. -/
def Outside (ledger : Ledger (Routine τ)) (c : Client τ) (tasks : List (Task τ α))
    (turns : List Turn) (thread : Thread τ α) : Prop :=
  ∃ rest, Along ledger c tasks turns thread.place rest ∧ rest.Settled ledger c ∧
    thread.job = .one (rest.routine ledger c)

/-- The thread has got the lock, or waits for it, for an operation whose traffic so far is `s`. -/
def Inside (ledger : Ledger (Routine τ)) (c : Client τ) (tasks : List (Task τ α))
    (turns : List Turn) (s : List Traffic) (thread : Thread τ α) : Prop :=
  ∃ operation instruction next x, Along ledger c tasks turns thread.place (.calls operation next) ∧
    operation.Executes ledger c instruction ∧ (Client.work ledger c instruction).Reaches s x ∧
    thread.job = .one (x >>= Task.resume ledger c next)

variable {turns : List Turn} {turn : Turn} {s t : List Traffic} {thread : Thread τ α}
  {rest : List (Thread τ α)} {pool pool' : Pool τ α}

theorem Along.outside {task : Task τ α} (h : Along ledger c tasks turns thread.place task)
    (hjob : thread.job = .one (task.routine ledger c)) : Outside ledger c tasks turns thread := by
  obtain ⟨settled, hgoes, hroutine, hsettled⟩ := task.exists_settled ledger c
  exact ⟨settled, h.goes hgoes, hsettled, hroutine ▸ hjob⟩

theorem Outside.elsewhere (h : Outside ledger c tasks turns thread)
    (hne : turn.place ≠ thread.place) : Outside ledger c tasks (turns ++ [turn]) thread := by
  obtain ⟨task, halong, hsettled, hjob⟩ := h
  exact ⟨task, halong.elsewhere hne, hsettled, hjob⟩

theorem Inside.elsewhere (h : Inside ledger c tasks turns s thread)
    (hne : turn.place ≠ thread.place) : Inside ledger c tasks (turns ++ [turn]) s thread := by
  obtain ⟨operation, instruction, next, x, halong, hrest⟩ := h
  exact ⟨operation, instruction, next, x, halong.elsewhere hne, hrest⟩

/-- A thread outside the lock sends nothing. -/
theorem Outside.not_calls (h : Outside ledger c tasks turns thread) (request : RpcRequest) :
    ¬ thread.Calls request := by
  rintro ⟨k, hcalls⟩
  obtain ⟨task, -, hsettled, hjob⟩ := h
  rw [hjob] at hcalls
  cases hsettled with
  | ended a => cases hcalls
  | asks hquery next =>
    cases hcalls
    exact hquery
  | calls hop next =>
    rw [Task.routine_calls hop] at hcalls
    cases hcalls

/-- What a thread outside the lock can do: end, go on, or ask for the lock. -/
theorem Outside.moves (h : Outside ledger c tasks turns thread)
    (hmoves : Pool.Moves pool thread rest t pool') :
    (∃ a, Along ledger c tasks turns thread.place (.ended a) ∧
      pool' = { pool with ready := rest, results := (thread.place, a) :: pool.results }) ∨
    (∃ thread' ready, Outside ledger c tasks turns thread' ∧ ready.Perm (thread' :: rest) ∧
      pool' = { pool with ready }) ∨
    ∃ thread', Inside ledger c tasks turns [] thread' ∧
      ((pool.locked = false ∧ pool' = { pool with ready := thread' :: rest, locked := true }) ∨
        (pool.locked = true ∧
          pool' = { pool with ready := rest, waiting := pool.waiting ++ [thread'] })) := by
  obtain ⟨task, halong, hsettled, hjob⟩ := h
  cases hsettled with
  | ended a =>
    cases hmoves with
    | ended hjob' =>
      cases hjob.symm.trans hjob'
      exact .inl ⟨a, halong, rfl⟩
    | _ hjob' => cases hjob.symm.trans hjob'
  | asks hquery next =>
    cases hmoves with
    | answered hjob' _ a context hready =>
      cases hjob.symm.trans hjob'
      refine .inr (.inl ⟨_, _, Along.outside ?_ rfl, hready, rfl⟩)
      exact halong.goes (.asked a (.refl _))
    | begun hjob' => cases hjob.symm.trans hjob'
    | ended hjob' => cases hjob.symm.trans hjob'
    | _ hjob' =>
      cases hjob.symm.trans hjob'
      exact absurd trivial hquery.not_onLock
  | calls hop next =>
    rw [Task.routine_calls hop] at hjob
    have hinside : Inside ledger c tasks turns []
        (thread.on (Client.work ledger c _ >>= Task.resume ledger c next)) :=
      ⟨_, _, next, _, halong, hop, .refl _, rfl⟩
    cases hmoves with
    | answered hjob' hlock =>
      cases hjob.symm.trans hjob'
      exact absurd trivial hlock
    | taken hjob' hlocked =>
      cases hjob.symm.trans hjob'
      exact .inr (.inr ⟨_, hinside, .inl ⟨hlocked, rfl⟩⟩)
    | queued hjob' hlocked =>
      cases hjob.symm.trans hjob'
      exact .inr (.inr ⟨_, hinside, .inr ⟨hlocked, rfl⟩⟩)
    | _ hjob' => cases hjob.symm.trans hjob'

/-- What the thread that has the lock can do: go on with its operation, or end it and give the lock
back, or to one that waits for it. -/
theorem Inside.moves (hledger : ledger.LeavesLock) (h : Inside ledger c tasks turns s thread)
    (hmoves : Pool.Moves pool thread rest t pool') :
    (∃ thread' ready, Inside ledger c tasks turns (s ++ t) thread' ∧
      ready.Perm (thread' :: rest) ∧ pool' = { pool with ready }) ∨
    t = [] ∧ ∃ turn thread', turn.place = thread.place ∧ turn.traffic = s ∧
      turn.Complete ledger c ∧ Outside ledger c tasks (turns ++ [turn]) thread' ∧
      ((pool.waiting = [] ∧ pool' = { pool with ready := thread' :: rest, locked := false }) ∨
        ∃ first waiting, pool.waiting = first :: waiting ∧
          pool' = { pool with ready := thread' :: rest ++ [first], waiting }) := by
  obtain ⟨operation, instruction, next, x, halong, hop, hreaches, hjob⟩ := h
  cases x with
  | ended r =>
    -- the work is done, so the step gives the lock back
    have hturn : Turn.Complete ledger c ⟨thread.place, operation, s, r⟩ := hop.reaches hreaches
    have houtside : Outside ledger c tasks (turns ++ [⟨thread.place, operation, s, r⟩])
        (thread.on ((next r).routine ledger c)) :=
      Along.outside (halong.called hturn) rfl
    cases hmoves with
    | answered hjob' hlock =>
      cases hjob.symm.trans hjob'
      exact absurd trivial hlock
    | released hjob' hwaiting =>
      cases hjob.symm.trans hjob'
      exact .inr ⟨rfl, _, _, rfl, rfl, hturn, houtside, .inl ⟨hwaiting, rfl⟩⟩
    | handedOver hjob' hwaiting =>
      cases hjob.symm.trans hjob'
      exact .inr ⟨rfl, _, _, rfl, rfl, hturn, houtside, .inr ⟨_, _, hwaiting, rfl⟩⟩
    | _ hjob' => cases hjob.symm.trans hjob'
  | asks query k =>
    have hlock : ¬ query.OnLock := ((Client.work_leavesLock hledger).reaches hreaches).1
    cases hmoves with
    | answered hjob' _ a context hready =>
      cases hjob.symm.trans hjob'
      have hinside : Inside ledger c tasks turns (s ++ query.traffic a)
          { thread.on (k a >>= Task.resume ledger c next) with context } :=
        ⟨operation, instruction, next, k a, halong, hop, hreaches.answered a, rfl⟩
      exact .inl ⟨_, _, hinside, hready, rfl⟩
    | begun hjob' => cases hjob.symm.trans hjob'
    | ended hjob' => cases hjob.symm.trans hjob'
    | _ hjob' =>
      cases hjob.symm.trans hjob'
      exact absurd trivial hlock

theorem Inside.along (h : Inside ledger c tasks turns s thread) :
    ∃ task, Along ledger c tasks turns thread.place task := by
  obtain ⟨_, _, _, _, halong, -⟩ := h
  exact ⟨_, halong⟩

/-- An operation under way will be complete once it comes to its end. -/
theorem Inside.exists_turn (h : Inside ledger c tasks turns s thread) :
    ∃ (turn : Turn) (next : Except Failure Outcome → Task τ α),
      Along ledger c tasks turns turn.place (.calls turn.operation next) ∧
        turn.Complete ledger c ∧ s <+: turn.traffic := by
  obtain ⟨operation, instruction, next, x, halong, hop, hreaches, -⟩ := h
  obtain ⟨s', r, hended⟩ := exists_reaches_ended x
  have hturn : Turn.Complete ledger c ⟨thread.place, operation, s ++ s', r⟩ :=
    hop.reaches (hreaches.trans hended)
  exact ⟨_, next, halong, hturn, List.prefix_append s s'⟩

/-- A request that was sent may be answered. -/
theorem Inside.exists_answered {request : RpcRequest} (h : Inside ledger c tasks turns s thread)
    (hcalls : thread.Calls request) (reply : Reply) : ∃ thread',
      Inside ledger c tasks turns (s ++ [.sent request, .received request reply]) thread' := by
  obtain ⟨operation, instruction, next, x, halong, hop, hreaches, hjob⟩ := h
  obtain ⟨_, hcalls⟩ := hcalls
  cases x with
  | ended r => cases hjob.symm.trans hcalls
  | asks query k =>
    cases hjob.symm.trans hcalls
    exact ⟨thread.on (k reply >>= Task.resume ledger c next), operation, instruction, next, k reply,
      halong, hop, hreaches.answered reply, rfl⟩

/-! ## The invariant -/

/-- The thread that has the lock, if one has: it is ready, or waits for a reply. -/
inductive Holds (ledger : Ledger (Routine τ)) (c : Client τ) (tasks : List (Task τ α))
    (turns : List Turn) : Bool → List (Thread τ α) → List (Thread τ α) → List Traffic → Prop where
  | nobody : Holds ledger c tasks turns false [] [] []
  | working {holder : Thread τ α} {s : List Traffic} (h : Inside ledger c tasks turns s holder) :
      Holds ledger c tasks turns true [holder] [] s
  | calling {holder : Thread τ α} {s : List Traffic} {request : RpcRequest}
      (h : Inside ledger c tasks turns s holder) (hcalls : holder.Calls request) :
      Holds ledger c tasks turns true [] [holder] (s ++ [.sent request])

namespace Holds

variable {locked : Bool} {running calling : List (Thread τ α)} {flight : List Traffic}

theorem of_unlocked (h : Holds ledger c tasks turns locked running calling flight)
    (hlocked : locked = false) : running = [] ∧ calling = [] ∧ flight = [] := by
  cases h with
  | nobody => exact ⟨rfl, rfl, rfl⟩
  | _ => cases hlocked

theorem of_idle (h : Holds ledger c tasks turns locked running calling flight)
    (hrunning : running = []) (hcalling : calling = []) : locked = false ∧ flight = [] := by
  cases h with
  | nobody => exact ⟨rfl, rfl⟩
  | working => cases hrunning
  | calling => cases hcalling

theorem of_running (h : Holds ledger c tasks turns locked [thread] calling flight) :
    calling = [] ∧ locked = true ∧ Inside ledger c tasks turns flight thread := by
  cases h with
  | working h => exact ⟨rfl, rfl, h⟩

theorem of_calling {mid : List (Thread τ α)}
    (h : Holds ledger c tasks turns locked running calling flight)
    (hcalling : calling.Perm (thread :: mid)) :
    running = [] ∧ mid = [] ∧ calling = [thread] ∧ locked = true ∧ ∃ s request,
      flight = s ++ [.sent request] ∧ Inside ledger c tasks turns s thread ∧
        thread.Calls request := by
  cases h with
  | calling h hcalls =>
    rw [List.singleton_perm] at hcalling
    obtain ⟨rfl, rfl⟩ := List.cons.inj hcalling
    exact ⟨rfl, rfl, rfl, rfl, _, _, rfl, h, hcalls⟩
  | _ => exact absurd hcalling.nil_eq nofun

theorem running_cases (h : Holds ledger c tasks turns locked running calling flight) :
    running = [] ∨ ∃ holder, running = [holder] := by
  cases h with
  | nobody => exact .inl rfl
  | working => exact .inr ⟨_, rfl⟩
  | calling => exact .inl rfl

theorem along (h : Holds ledger c tasks turns locked running calling flight) :
    ∀ thread ∈ running ++ calling, ∃ task, Along ledger c tasks turns thread.place task := by
  cases h with
  | nobody => exact List.forall_mem_nil _
  | working hholder => exact List.forall_mem_singleton.2 hholder.along
  | calling hholder => exact List.forall_mem_singleton.2 hholder.along

/-- What was sent and received since the last operation ended is the begin of an operation. -/
theorem flight_cases (h : Holds ledger c tasks turns locked running calling flight) :
    flight = [] ∨ ∃ (turn : Turn) (next : Except Failure Outcome → Task τ α),
      Along ledger c tasks turns turn.place (.calls turn.operation next) ∧
        turn.Complete ledger c ∧ flight <+: turn.traffic := by
  cases h with
  | nobody => exact .inl rfl
  | working hholder => exact .inr hholder.exists_turn
  | calling hholder hcalls =>
    -- a reply, whatever it is, lets the operation go on to its end
    obtain ⟨_, hanswered⟩ := hholder.exists_answered hcalls (.unreachable "" "")
    obtain ⟨turn, next, halong, hturn, hprefix⟩ := hanswered.exists_turn
    refine .inr ⟨turn, next, halong, hturn, .trans ?_ hprefix⟩
    exact ⟨[.received _ _], List.append_assoc _ _ _⟩

end Holds

/-- What holds of a course all the time. `turns` are the operations that have ended and `flight` is
the traffic of the one that has the lock; `running` is who has it, if it is ready, and `others` are
all the others that are ready. -/
structure Account (ledger : Ledger (Routine τ)) (c : Client τ) (tasks : List (Task τ α))
    (t : List Traffic) (turns : List Turn) (flight : List Traffic)
    (running others : List (Thread τ α)) (course : Course τ α) : Prop where
  traffic : t = turns.flatMap Turn.traffic ++ flight
  complete : ∀ turn ∈ turns, turn.Complete ledger c
  places : course.places.Perm ((List.range tasks.length).map fun n => [n])
  ready : course.pool.ready.Perm (running ++ others)
  holds : Holds ledger c tasks turns course.pool.locked running course.calling flight
  outside : ∀ thread ∈ others, Outside ledger c tasks turns thread
  inside : ∀ thread ∈ course.pool.waiting, Inside ledger c tasks turns [] thread
  free : course.pool.locked = false → course.pool.waiting = []
  ended : ∀ result ∈ course.pool.results, Along ledger c tasks turns result.1 (.ended result.2)

omit [Seconds τ] in
/-- A thread of a list of two parts stands in the one or in the other. -/
theorem perm_append_cases {l l₁ l₂ : List (Thread τ α)} (h : (thread :: l).Perm (l₁ ++ l₂)) :
    (∃ m, l₁.Perm (thread :: m) ∧ l.Perm (m ++ l₂)) ∨
      ∃ m, l₂.Perm (thread :: m) ∧ l.Perm (l₁ ++ m) := by
  obtain hmem | hmem := List.mem_append.1 (h.subset List.mem_cons_self)
  · obtain ⟨m₁, m₂, rfl⟩ := List.append_of_mem hmem
    have hsplit : (m₁ ++ thread :: m₂).Perm (thread :: (m₁ ++ m₂)) := List.perm_middle
    exact .inl ⟨m₁ ++ m₂, hsplit, (h.trans (hsplit.append_right l₂)).cons_inv⟩
  · obtain ⟨m₁, m₂, rfl⟩ := List.append_of_mem hmem
    have hsplit : (m₁ ++ thread :: m₂).Perm (thread :: (m₁ ++ m₂)) := List.perm_middle
    have hall : (thread :: l).Perm (thread :: (l₁ ++ (m₁ ++ m₂))) :=
      (h.trans (hsplit.append_left l₁)).trans List.perm_middle
    exact .inr ⟨m₁ ++ m₂, hsplit, hall.cons_inv⟩

namespace Account

variable {flight : List Traffic} {running others calling : List (Thread τ α)}

/-- The order of the threads does not matter. -/
theorem rearranged {ready waiting : List (Thread τ α)}
    (h : Account ledger c tasks t turns flight running others ⟨pool, calling⟩)
    (hready : pool.ready.Perm ready) (hwaiting : pool.waiting.Perm waiting) :
    Account ledger c tasks t turns flight running others
      ⟨{ pool with ready, waiting }, calling⟩ where
  traffic := h.traffic
  complete := h.complete
  places := (((hready.append_right _).append hwaiting).map _ |>.append_right _).symm.trans h.places
  ready := hready.symm.trans h.ready
  holds := h.holds
  outside := h.outside
  inside := fun thread hthread => h.inside thread (hwaiting.mem_iff.2 hthread)
  free := fun hlocked => (h.free hlocked ▸ hwaiting).nil_eq.symm
  ended := h.ended

/-- No other thread, and none that has ended, has the place of a thread. -/
theorem distinct
    (h : Account ledger c tasks t turns flight running others ⟨pool, calling⟩)
    (hfront : pool.ready = thread :: rest) :
    (∀ other ∈ rest ++ calling ++ pool.waiting, thread.place ≠ other.place) ∧
      ∀ result ∈ pool.results, thread.place ≠ result.1 := by
  have hrange : ((List.range tasks.length).map fun n => [n]).Nodup :=
    List.pairwise_map.2 (List.nodup_range.imp fun hne hmn => hne (List.singleton_inj.1 hmn))
  have hnodup := h.places.nodup_iff.2 hrange
  simp only [Course.places, hfront] at hnodup
  have hplaces := (List.nodup_cons.1 hnodup).1
  constructor
  · intro other hother hplace
    exact hplaces (List.mem_append_left _ (List.mem_map.2 ⟨other, hother, hplace.symm⟩))
  · intro result hresult hplace
    exact hplaces (List.mem_append_right _ (List.mem_map.2 ⟨result, hresult, hplace.symm⟩))

/-- A step of a thread outside the lock. -/
theorem step_other {mid : List (Thread τ α)}
    (h : Account ledger c tasks t turns flight running others ⟨pool, calling⟩)
    (hfront : pool.ready = thread :: rest) (hothers : others.Perm (thread :: mid))
    (hrest : rest.Perm (running ++ mid)) (hmoves : Pool.Moves pool thread rest s pool') :
    ∃ running' others', Account ledger c tasks t turns flight running' others'
      ⟨pool', calling⟩ := by
  have hthread := h.outside thread (hothers.mem_iff.2 List.mem_cons_self)
  have hmid : ∀ other ∈ mid, Outside ledger c tasks turns other :=
    fun other hother => h.outside other (hothers.mem_iff.2 (List.mem_cons_of_mem _ hother))
  obtain ⟨_, -, -, hjob⟩ := id hthread
  have hplaces : (Course.mk pool' calling).places.Perm _ :=
    (hmoves.places_perm hfront hjob).trans h.places
  obtain ⟨a, halong, rfl⟩ | ⟨thread', ready, hthread', hready, rfl⟩ |
    ⟨thread', hinside, ⟨hlocked, rfl⟩ | ⟨hlocked, rfl⟩⟩ := hthread.moves hmoves
  · exact ⟨running, mid, h.traffic, h.complete, hplaces, hrest, h.holds, hmid, h.inside, h.free,
      List.forall_mem_cons.2 ⟨halong, h.ended⟩⟩
  · refine ⟨running, thread' :: mid, h.traffic, h.complete, hplaces, ?_, h.holds, ?_, h.inside,
      h.free, h.ended⟩
    · exact hready.trans ((hrest.cons thread').trans List.perm_middle.symm)
    · exact List.forall_mem_cons.2 ⟨hthread', hmid⟩
  · -- nobody had the lock, so the thread has it now
    obtain ⟨hrunning, hcalling, hflight⟩ := h.holds.of_unlocked hlocked
    obtain rfl : calling = [] := hcalling
    subst hrunning hflight
    exact ⟨[thread'], mid, h.traffic, h.complete, hplaces, hrest.cons thread', .working hinside, hmid,
      h.inside, nofun, h.ended⟩
  · refine ⟨running, mid, h.traffic, h.complete, hplaces, hrest, h.holds, hmid, ?_, ?_, h.ended⟩
    · exact List.forall_mem_append.2 ⟨h.inside, List.forall_mem_singleton.2 hinside⟩
    · exact fun hfree => absurd (hlocked.symm.trans hfree) nofun

/-- A step of the thread that has the lock. What it asks is part of its operation, until that ends. -/
theorem step_holder (hledger : ledger.LeavesLock)
    (h : Account ledger c tasks t turns flight [thread] others ⟨pool, calling⟩)
    (hfront : pool.ready = thread :: rest) (hmoves : Pool.Moves pool thread rest s pool') :
    ∃ turns' flight' running' others', Account ledger c tasks (t ++ s) turns' flight' running'
      others' ⟨pool', calling⟩ := by
  obtain ⟨rfl, hlocked, hholder⟩ := h.holds.of_running
  have hrest : rest.Perm others := (hfront ▸ h.ready : (thread :: rest).Perm _).cons_inv
  obtain ⟨_, _, _, _, -, -, -, hjob⟩ := id hholder
  have hplaces : (Course.mk pool' []).places.Perm _ :=
    (hmoves.places_perm hfront hjob).trans h.places
  obtain ⟨thread', ready, hthread', hready, rfl⟩ |
    ⟨rfl, turn, thread', hplace, rfl, hturn, hthread', hend⟩ := hholder.moves hledger hmoves
  · refine ⟨turns, flight ++ s, [thread'], others, ?_, h.complete, hplaces, ?_, ?_, h.outside,
      h.inside, h.free, h.ended⟩
    · rw [h.traffic, List.append_assoc]
    · exact hready.trans (hrest.cons thread')
    · exact hlocked ▸ .working hthread'
  · -- the operation is complete, which changes nothing at any other place
    obtain ⟨hdistinct, hdone⟩ := h.distinct hfront
    rw [← hplace] at hdistinct hdone
    have htraffic : t ++ [] = (turns ++ [turn]).flatMap Turn.traffic ++ [] := by
      simpa using h.traffic
    have hcomplete : ∀ turn' ∈ turns ++ [turn], turn'.Complete ledger c :=
      List.forall_mem_append.2 ⟨h.complete, List.forall_mem_singleton.2 hturn⟩
    have houtside : ∀ other ∈ thread' :: rest, Outside ledger c tasks (turns ++ [turn]) other := by
      refine List.forall_mem_cons.2 ⟨hthread', fun other hother => ?_⟩
      exact (h.outside other (hrest.subset hother)).elsewhere (hdistinct other (by simp [hother]))
    have hinside : ∀ other ∈ pool.waiting, Inside ledger c tasks (turns ++ [turn]) [] other :=
      fun other hother =>
        (h.inside other hother).elsewhere (hdistinct other (by simp [hother]))
    have hended : ∀ result ∈ pool.results,
        Along ledger c tasks (turns ++ [turn]) result.1 (.ended result.2) :=
      fun result hresult => (h.ended result hresult).elsewhere (hdone result hresult)
    obtain ⟨hwaiting, rfl⟩ | ⟨first, waiting, hwaiting, rfl⟩ := hend
    · exact ⟨turns ++ [turn], [], [], thread' :: rest, htraffic, hcomplete, hplaces, .refl _, .nobody,
        houtside, hinside, fun _ => hwaiting, hended⟩
    · rw [show pool.waiting = first :: waiting from hwaiting] at hinside
      obtain ⟨hfirst, hwaiting⟩ := List.forall_mem_cons.1 hinside
      refine ⟨turns ++ [turn], [], [first], thread' :: rest, htraffic, hcomplete, hplaces,
        List.perm_append_comm, ?_, houtside, hwaiting, ?_, hended⟩
      · exact hlocked ▸ .working hfirst
      · exact fun hfree => absurd (hlocked.symm.trans hfree) nofun

/-- The thread that has the lock is not any other, and who is ready is one of them. -/
theorem holder_or_other
    (h : Account ledger c tasks t turns flight running others ⟨pool, calling⟩)
    (hready : pool.ready.Perm (thread :: rest)) :
    running = [thread] ∨ ∃ mid, others.Perm (thread :: mid) ∧ rest.Perm (running ++ mid) := by
  obtain ⟨mid, hrunning, -⟩ | hother := perm_append_cases (hready.symm.trans h.ready)
  · obtain rfl | ⟨holder, rfl⟩ := h.holds.running_cases
    · exact absurd hrunning.symm.eq_nil (List.cons_ne_nil _ _)
    · rw [List.singleton_perm] at hrunning
      exact .inl (by rw [(List.cons.inj hrunning).1])
  · exact .inr hother

/-- The thread that has the lock sends a request. -/
theorem step_call {request : RpcRequest}
    (h : Account ledger c tasks t turns flight running others ⟨pool, calling⟩)
    (hready : pool.ready.Perm (thread :: rest)) (hcalls : thread.Calls request) :
    ∃ flight', Account ledger c tasks (t ++ [.sent request]) turns flight' [] others
      ⟨{ pool with ready := rest }, thread :: calling⟩ := by
  obtain rfl | ⟨mid, hothers, -⟩ := h.holder_or_other hready
  · obtain ⟨rfl, hlocked, hholder⟩ := h.holds.of_running
    have hrest : rest.Perm others := (hready.symm.trans h.ready).cons_inv
    refine ⟨flight ++ [.sent request], ?_, h.complete, ?_, hrest, ?_, h.outside, h.inside,
      h.free, h.ended⟩
    · rw [h.traffic, List.append_assoc]
    · refine .trans ?_ h.places
      rw [List.perm_iff_count]
      intro place
      have hcount := (hready.map Thread.place).count_eq place
      simp only [Course.count_places, List.map_cons, List.map_nil, List.count_cons,
        List.count_nil] at hcount ⊢
      omega
    · exact hlocked ▸ .calling hholder hcalls
  · have hthread := h.outside thread (hothers.mem_iff.2 List.mem_cons_self)
    exact absurd hcalls (hthread.not_calls request)

/-- A reply comes in. -/
theorem step_reply (hledger : ledger.LeavesLock) {mid : List (Thread τ α)} {request : RpcRequest}
    {reply : Reply} (h : Account ledger c tasks t turns flight running others ⟨pool, calling⟩)
    (hcalling : calling.Perm (thread :: mid))
    (hmoves : Pool.Moves { pool with ready := thread :: pool.ready } thread pool.ready
      [.sent request, .received request reply] pool') :
    ∃ turns' flight' running' others', Account ledger c tasks (t ++ [.received request reply]) turns'
      flight' running' others' ⟨pool', mid⟩ := by
  obtain ⟨rfl, rfl, rfl, hlocked, s₀, request', rfl, hholder, hcalls⟩ := h.holds.of_calling hcalling
  obtain rfl : request' = request := hmoves.sent_eq hcalls
  have hbefore : Account ledger c tasks (turns.flatMap Turn.traffic ++ s₀) turns s₀ [thread] others
      ⟨{ pool with ready := thread :: pool.ready }, []⟩ := by
    refine ⟨rfl, h.complete, ?_, h.ready.cons thread, hlocked ▸ .working hholder, h.outside, h.inside,
      h.free, h.ended⟩
    refine .trans ?_ h.places
    rw [List.perm_iff_count]
    intro place
    simp only [Course.count_places, List.map_cons, List.map_nil, List.count_cons, List.count_nil]
    omega
  have hafter := hbefore.step_holder hledger rfl hmoves
  rwa [show turns.flatMap Turn.traffic ++ s₀ ++ [.sent request', .received request' reply] =
    t ++ [.received request' reply] by simp [h.traffic]] at hafter

/-- What holds of a course holds of it after one step more. -/
theorem step (hledger : ledger.LeavesLock) {course course' : Course τ α}
    (h : Account ledger c tasks t turns flight running others course)
    (hstep : course.Step s course') :
    ∃ turns' flight' running' others', Account ledger c tasks (t ++ s) turns' flight' running'
      others' course' := by
  cases hstep with
  | own hready hwaiting hcalls hpool =>
    have hmoves := Pool.step_moves rfl hpool
    have hsame := h.rearranged hready hwaiting
    rw [hmoves.traffic_eq_nil hcalls] at hmoves
    obtain rfl | ⟨mid, hothers, hrest⟩ := hsame.holder_or_other (.refl _)
    · exact hsame.step_holder hledger rfl hmoves
    · rw [List.append_nil]
      exact ⟨turns, flight, hsame.step_other rfl hothers hrest hmoves⟩
  | call hready hcalls =>
    obtain ⟨flight', hcalled⟩ := h.step_call hready hcalls
    exact ⟨turns, flight', [], others, hcalled⟩
  | reply hcalling hpool => exact h.step_reply hledger hcalling (Pool.step_moves rfl hpool)

/-- At the beginning every task is outside the lock. -/
theorem begun : Account ledger c tasks [] [] [] []
    (Course.begun (tasks.map (Task.routine ledger c))).pool.ready
    (.begun (tasks.map (Task.routine ledger c))) := by
  have hplaces := Course.begun_places (tasks.map (Task.routine ledger c))
  rw [List.length_map] at hplaces
  refine ⟨rfl, List.forall_mem_nil _, .of_eq hplaces, .refl _, .nobody, fun thread hthread => ?_,
    List.forall_mem_nil _, fun _ => rfl, List.forall_mem_nil _⟩
  obtain ⟨n, routine, hroutine, rfl⟩ := Course.mem_begun hthread
  rw [List.getElem?_map, Option.map_eq_some_iff] at hroutine
  obtain ⟨task, htask, rfl⟩ := hroutine
  have halong : Along ledger c tasks [] [n] task := ⟨n, task, rfl, htask, .refl task⟩
  exact halong.outside rfl

/-- What holds at the beginning and after every step holds all the time. -/
theorem run (hledger : ledger.LeavesLock) {course : Course τ α}
    (h : Course.Runs (.begun (tasks.map (Task.routine ledger c))) t course) :
    ∃ turns flight running others,
      Account ledger c tasks t turns flight running others course := by
  induction h with
  | refl => exact ⟨_, _, _, _, begun⟩
  | step _ hstep ih =>
    obtain ⟨turns, flight, running, others, h⟩ := ih
    exact h.step hledger hstep

/-- Once no thread can go on, none waits for the lock either. -/
theorem idle {course : Course τ α}
    (h : Account ledger c tasks t turns flight running others course) (hdone : course.Done) :
    flight = [] ∧ course.pool.waiting = [] := by
  obtain ⟨hready, hcalling⟩ := hdone
  have hrunning : running = [] := by
    have hnone := h.ready
    rw [hready] at hnone
    exact (List.append_eq_nil_iff.1 hnone.nil_eq.symm).1
  obtain ⟨hlocked, hflight⟩ := h.holds.of_idle hrunning hcalling
  exact ⟨hflight, h.free hlocked⟩

/-- How far the task at a place has come. -/
theorem exists_along {course : Course τ α}
    (h : Account ledger c tasks t turns flight running others course) {n : Nat}
    (hn : n < tasks.length) : ∃ rest, Along ledger c tasks turns [n] rest ∧
      (course.Done → ∃ a, rest = .ended a ∧ course.pool.result? [n] = some a) := by
  have hplace : [n] ∈ course.places :=
    h.places.mem_iff.2 (List.mem_map.2 ⟨n, List.mem_range.2 hn, rfl⟩)
  obtain hthread | hresult := List.mem_append.1 hplace
  · obtain ⟨thread, hthread, hn⟩ := List.mem_map.1 hthread
    rw [← hn]
    have hnone : ¬ course.Done := by
      intro hdone
      rw [hdone.1, hdone.2, (h.idle hdone).2] at hthread
      cases hthread
    have halong : ∃ rest, Along ledger c tasks turns thread.place rest := by
      simp only [List.mem_append, h.ready.mem_iff] at hthread
      obtain ((hrunning | hother) | hcalling) | hwaiting := hthread
      · exact h.holds.along thread (List.mem_append_left _ hrunning)
      · obtain ⟨rest, halong, -⟩ := h.outside thread hother
        exact ⟨rest, halong⟩
      · exact h.holds.along thread (List.mem_append_right _ hcalling)
      · exact (h.inside thread hwaiting).along
    obtain ⟨rest, halong⟩ := halong
    exact ⟨rest, halong, fun hdone => absurd hdone hnone⟩
  · obtain ⟨result, hmem, hn⟩ := List.mem_map.1 hresult
    have hsome : (course.pool.result? [n]).isSome :=
      List.lookup_isSome_iff.2 ⟨result, hmem, beq_iff_eq.2 hn.symm⟩
    obtain ⟨a, ha⟩ := Option.isSome_iff_exists.1 hsome
    obtain ⟨before, after, hresults, -⟩ := List.lookup_eq_some_iff.1 ha
    have halong := h.ended ([n], a) (by simp [hresults])
    exact ⟨.ended a, halong, fun _ => ⟨a, rfl, ha⟩⟩

end Account

/-! ## One operation after another -/

/-- The tasks of a client have come this far: `turns` are the operations that have ended, and `flight`
is what was sent and received since. -/
structure Serial (ledger : Ledger (Routine τ)) (c : Client τ) (tasks : List (Task τ α))
    (t : List Traffic) (course : Course τ α) (turns : List Turn) (flight : List Traffic) : Prop where
  /-- What the endpoint sees is one operation after another. -/
  traffic : t = turns.flatMap Turn.traffic ++ flight
  /-- Each of them is seen as a whole. -/
  complete : ∀ turn ∈ turns, turn.Complete ledger c
  /-- The rest is the begin of one operation, that a task called and whose result it waits for. -/
  begun : flight = [] ∨ ∃ (turn : Turn) (next : Except Failure Outcome → Task τ α),
    Along ledger c tasks turns turn.place (.calls turn.operation next) ∧
      turn.Complete ledger c ∧ flight <+: turn.traffic
  /-- Each task has come to a point behind the operations that it called. -/
  along : ∀ n < tasks.length, ∃ rest, Along ledger c tasks turns [n] rest ∧
    (course.Done → ∃ a, rest = .ended a ∧ course.pool.result? [n] = some a)
  /-- Once no task can go on, none waits for the lock, and no operation is under way. -/
  done : course.Done → flight = [] ∧ course.pool.waiting = []

theorem Account.serial {flight : List Traffic} {running others : List (Thread τ α)}
    {course : Course τ α} (h : Account ledger c tasks t turns flight running others course) :
    Serial ledger c tasks t course turns flight where
  traffic := h.traffic
  complete := h.complete
  begun := h.holds.flight_cases
  along := fun _ hn => h.exists_along hn
  done := h.idle

/-- So it is in the order in which a pool runs its threads. -/
theorem Pool.run_serial (hledger : ledger.LeavesLock) {steps : Nat} {t : List (Wire.Event τ)}
    (h : Pool.run Wire.host Wire.transport steps
      (.ofJobs ((tasks.map (Task.routine ledger c)).map .one)) t pool') :
    ∃ turns flight, Serial ledger c tasks (Wire.traffic t) ⟨pool', []⟩ turns flight := by
  have hcourse : Course.Runs (.begun (tasks.map (Task.routine ledger c))) (Wire.traffic t)
      ⟨pool', []⟩ := run_course h
  obtain ⟨turns, flight, running, others, haccount⟩ := Account.run hledger hcourse
  exact ⟨turns, flight, haccount.serial⟩

/-- What the endpoint sees of any number of tasks, in whatever order they run, is one whole operation
after another. -/
theorem Course.one_after_another (hledger : ledger.LeavesLock) {course : Course τ α}
    (h : Course.Runs (.begun (tasks.map (Task.routine ledger c))) t course) :
    ∃ turns flight, Serial ledger c tasks t course turns flight := by
  obtain ⟨turns, flight, running, others, haccount⟩ := Account.run hledger h
  exact ⟨turns, flight, haccount.serial⟩

end

namespace Sample

/-- Two tasks that execute the same instruction. -/
def tasks : List (Task ℚ (Except Failure Outcome)) :=
  List.replicate 2 (.calls (.execute instruction) .ended)

/-- Their way to the endpoint. -/
def session : Ledger (Routine ℚ) := Session.ledger Routine.host Routine.transport .standard

/-- The endpoint is not there. -/
def missing : Reply := .response 404 []

/-- What an operation asks for first. -/
def question (number : Nat) : RpcRequest :=
  ⟨number, "getLatestBlockhash", [.object (Session.readOptions (.standard : SessionConfig ℚ))]⟩

/-- What the endpoint sees of the two. -/
def seen : List Traffic :=
  [.sent (question 1), .received (question 1) missing, .sent (question 2),
    .received (question 2) missing]

/-- What an operation comes to if the endpoint is not there. -/
def refusal : Except Failure Outcome :=
  .error (.client (.network (.httpStatus "getLatestBlockhash" 404)))

section
variable {course : Course ℚ α} {t : List Traffic} {resume : Except Failure Outcome → Routine ℚ α}
  {pool : Pool ℚ α} {thread : Thread ℚ α} {rest : List (Thread ℚ α)}

/-- The thread that has the lock asks for a block hash. -/
theorem asked (number : Nat) (h : Course.Runs course t ⟨pool, []⟩)
    (hready : pool.ready.Perm (thread :: rest))
    (hjob : thread.job = .one (Client.work session client instruction >>= resume)) :
    ∃ (caller : Thread ℚ α) (next : Reply → Routine ℚ α),
      caller.job = .one (.asks (.post (question number)) next) ∧
      next missing = .asks (.setContext none) (fun _ => resume refusal) ∧
      Course.Runs course (t ++ [.sent (question number)])
        ⟨{ pool with ready := rest }, [caller]⟩ := by
  have hcontext := h.own hready hjob id ⟨rfl, rfl⟩
  have hnumber := hcontext.own (.refl _) rfl id ⟨_, number, _, rfl, ⟨rfl, rfl⟩, rfl⟩
  have hlog := hnumber.own (.refl _) rfl id
    ⟨_, (), _, rfl, ⟨_, (), _, rfl, ⟨_, (), _, rfl, ⟨rfl, rfl⟩, rfl⟩, rfl⟩, rfl⟩
  exact ⟨_, _, rfl, rfl, hlog.step (.call (.refl _) ⟨_, rfl⟩)⟩

/-- The reply comes in, and the thread gives up. -/
theorem refused {caller : Thread ℚ α} {request : RpcRequest} {next : Reply → Routine ℚ α}
    (h : Course.Runs course t ⟨pool, [caller]⟩)
    (hjob : caller.job = .one (.asks (.post request) next))
    (hnext : next missing = .asks (.setContext none) fun _ => resume refusal) :
    ∃ thread : Thread ℚ α, thread.job = .one (resume refusal) ∧
      Course.Runs course (t ++ [.received request missing])
        ⟨{ pool with ready := thread :: pool.ready }, []⟩ := by
  have hreply : Pool.step Wire.host Wire.transport { pool with ready := caller :: pool.ready }
      [.transport (.posted request missing)]
      { pool with ready := caller.on (next missing) :: pool.ready } := by
    unfold Pool.step
    simp only [hjob]
    exact ⟨_, missing, _, ⟨rfl, trivial⟩, ⟨rfl, rfl⟩, rfl⟩
  rw [hnext] at hreply
  have hreceived := h.step (.reply (.refl _) hreply)
  have hcontext := hreceived.own (.refl _) rfl id ⟨rfl, rfl⟩
  exact ⟨_, rfl, hcontext⟩

end

/-- The first task asks for a block hash, the second one for the lock; the first one is refused, and
then it is the second one's turn. -/
theorem contended : ∃ course,
    Course.Runs (.begun (tasks.map (Task.routine session client))) seen course ∧ course.Done := by
  have hbegun := Course.Runs.refl (.begun (tasks.map (Task.routine session client)))
  have hop : Operation.Executes session client (.execute instruction) instruction := rfl
  have hjob := congrArg Job.one (Task.routine_calls hop (Task.ended (τ := ℚ)))
  have htaken := hbegun.own (.refl _) hjob id ⟨rfl, rfl⟩
  obtain ⟨first, _, hfirst, hnext, hasked⟩ := asked 1 htaken (.refl _) rfl
  have hwaiting := hasked.own (.refl _) hjob id ⟨rfl, rfl⟩
  obtain ⟨first, hfirst, hrefused⟩ := refused hwaiting hfirst hnext
  have hhanded := hrefused.own (.refl _) hfirst id ⟨rfl, rfl⟩
  have hended := hhanded.ended (.refl _) rfl
  obtain ⟨second, _, hsecond, hnext, hasked⟩ := asked 2 hended (.refl _) rfl
  obtain ⟨second, hsecond, hrefused⟩ := refused hasked hsecond hnext
  have hreleased := hrefused.own (.refl _) hsecond id ⟨rfl, rfl⟩
  have hall := hreleased.ended (.refl _) rfl
  exact ⟨_, hall, rfl, rfl⟩

end Sample

/-- Two tasks that contend for the lock, before an endpoint that is not there. -/
theorem Course.one_after_another_contended : ∃ course turns flight,
    Course.Runs (.begun (Sample.tasks.map (Task.routine Sample.session Sample.client)))
      Sample.seen course ∧ course.Done ∧
      Serial Sample.session Sample.client Sample.tasks Sample.seen course turns flight := by
  obtain ⟨course, hruns, hdone⟩ := Sample.contended
  obtain ⟨turns, flight, hserial⟩ := Course.one_after_another Session.ledger_leavesLock hruns
  exact ⟨course, turns, flight, hruns, hdone, hserial⟩

end StorageAgent
