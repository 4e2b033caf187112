import StorageAgent.Pool
import StorageAgent.Proofs.Endpoint.Wire
import StorageAgent.Proofs.Pool.Tasks

/-!
# Schedules of a pool

`Pool.run` runs the threads of a pool in an order of its own, and has the reply to a request at
once. On other machines any thread that is ready may run next, the lock may go to any thread that
waits for it, and while one thread waits for a reply the others run. A `Course` is a pool with the
threads that wait for a reply.

* `Pool.step_moves`: all that a step makes of a pool.
* `Course.Runs`: a course in whatever order.
* `Pool.run_course`: the order of `Pool.run` is one of them.
-/
namespace StorageAgent

open Behaviour

variable {τ α : Type}

/-- The traffic that a trace of the wire tells of. -/
def Wire.traffic (t : List (Wire.Event τ)) : List Traffic :=
  t.flatMap fun
    | .transport (.posted request reply) => [.sent request, .received request reply]
    | _ => []

theorem Wire.traffic_append (t₁ t₂ : List (Wire.Event τ)) :
    Wire.traffic (t₁ ++ t₂) = Wire.traffic t₁ ++ Wire.traffic t₂ := List.flatMap_append

/-! ## Steps of a pool -/

namespace Pool

/-- What becomes of a pool in a step of a thread, `rest` being the others that are ready, and the
traffic of the step. -/
inductive Moves (pool : Pool τ α) (thread : Thread τ α) (rest : List (Thread τ α)) :
    List Traffic → Pool τ α → Prop where
  | begun {jobs : List (Job τ α)} (hjob : thread.job = .all jobs) :
      Moves pool thread rest []
        { pool with ready := rest ++ threads thread.place thread.context jobs }
  | ended {a : α} (hjob : thread.job = .one (.ended a)) :
      Moves pool thread rest []
        { pool with ready := rest, results := (thread.place, a) :: pool.results }
  | answered {query : Query τ} {next : query.Answer → Routine τ α} {ready : List (Thread τ α)}
      (hjob : thread.job = .one (.asks query next)) (hlock : ¬ query.OnLock) (a : query.Answer)
      (context : Option Log.Context)
      (hready : ready.Perm ({ thread.on (next a) with context } :: rest)) :
      Moves pool thread rest (query.traffic a) { pool with ready }
  | taken {next : Unit → Routine τ α} (hjob : thread.job = .one (.asks .acquire next))
      (hlocked : pool.locked = false) :
      Moves pool thread rest []
        { pool with ready := thread.on (next ()) :: rest, locked := true }
  | queued {next : Unit → Routine τ α} (hjob : thread.job = .one (.asks .acquire next))
      (hlocked : pool.locked = true) :
      Moves pool thread rest []
        { pool with ready := rest, waiting := pool.waiting ++ [thread.on (next ())] }
  | released {next : Unit → Routine τ α} (hjob : thread.job = .one (.asks .release next))
      (hwaiting : pool.waiting = []) :
      Moves pool thread rest []
        { pool with ready := thread.on (next ()) :: rest, locked := false }
  | handedOver {next : Unit → Routine τ α} {first : Thread τ α} {waiting : List (Thread τ α)}
      (hjob : thread.job = .one (.asks .release next)) (hwaiting : pool.waiting = first :: waiting) :
      Moves pool thread rest []
        { pool with ready := thread.on (next ()) :: rest ++ [first], waiting }

variable {pool pool' : Pool τ α} {thread : Thread τ α} {rest : List (Thread τ α)}
  {t : List (Wire.Event τ)}

/-- A thread that goes on at the front. -/
theorem Moves.goes {query : Query τ} {next : query.Answer → Routine τ α}
    (hjob : thread.job = .one (.asks query next)) (hlock : ¬ query.OnLock) (a : query.Answer) :
    Moves pool thread rest (query.traffic a) { pool with ready := thread.on (next a) :: rest } :=
  .answered hjob hlock a thread.context (.refl _)

theorem answer_moves {query : Query τ} {next : query.Answer → Routine τ α}
    (hjob : thread.job = .one (.asks query next))
    (h : answer Wire.host Wire.transport pool thread rest query next t pool') :
    Moves pool thread rest (Wire.traffic t) pool' := by
  cases query with
  | now =>
    obtain ⟨_, time, _, rfl, ⟨rfl, rfl⟩, rfl⟩ := bind_iff.1 h
    exact .goes hjob nofun time
  | draw =>
    obtain ⟨_, u, _, rfl, ⟨rfl, rfl⟩, rfl⟩ := bind_iff.1 h
    exact .goes hjob nofun u
  | sleep delay =>
    obtain ⟨_, _, _, rfl, ⟨rfl, rfl⟩, rfl⟩ := bind_iff.1 h
    exact .answered hjob nofun () thread.context (List.perm_append_singleton _ _)
  | log line =>
    obtain ⟨_, _, _, rfl, h₁, rfl⟩ := bind_iff.1 h
    obtain ⟨_, _, _, rfl, h₂, rfl⟩ := bind_iff.1 h₁
    obtain ⟨_, _, _, rfl, ⟨rfl, rfl⟩, rfl⟩ := bind_iff.1 h₂
    exact .goes hjob nofun ()
  | setContext context =>
    obtain ⟨rfl, rfl⟩ := pure_iff.1 h
    exact .answered hjob nofun () context (.refl _)
  | acquire =>
    unfold answer at h
    dsimp only at h
    split at h
    · obtain ⟨rfl, rfl⟩ := pure_iff.1 h
      exact .queued hjob ‹_›
    · obtain ⟨rfl, rfl⟩ := pure_iff.1 h
      exact .taken hjob (eq_false_of_ne_true ‹_›)
  | release =>
    unfold answer at h
    cases hwaiting : pool.waiting with
    | nil =>
      simp only [hwaiting] at h
      obtain ⟨rfl, rfl⟩ := pure_iff.1 h
      rw [← hwaiting]
      exact .released hjob hwaiting
    | cons first waiting =>
      simp only [hwaiting] at h
      obtain ⟨rfl, rfl⟩ := pure_iff.1 h
      exact .handedOver hjob hwaiting
  | nextId =>
    obtain ⟨_, id, _, rfl, ⟨rfl, rfl⟩, rfl⟩ := bind_iff.1 h
    exact .goes hjob nofun id
  | post request =>
    obtain ⟨_, reply, _, ⟨rfl, -⟩, ⟨rfl, rfl⟩, rfl⟩ := bind_iff.1 h
    exact .goes hjob nofun reply

/-- All that a step can do. -/
theorem step_moves (hready : pool.ready = thread :: rest)
    (h : step Wire.host Wire.transport pool t pool') :
    Moves pool thread rest (Wire.traffic t) pool' := by
  unfold step at h
  rw [hready] at h
  cases hjob : thread.job with
  | all jobs =>
    simp only [hjob] at h
    obtain ⟨rfl, rfl⟩ := pure_iff.1 h
    exact .begun hjob
  | one routine =>
    cases routine with
    | ended a =>
      simp only [hjob] at h
      obtain ⟨rfl, rfl⟩ := pure_iff.1 h
      exact .ended hjob
    | asks query next =>
      simp only [hjob] at h
      exact answer_moves hjob h

end Pool

/-! ## Schedules -/

/-- The next thing that a thread does is to send this request. -/
def Thread.Calls (thread : Thread τ α) (request : RpcRequest) : Prop :=
  ∃ next, thread.job = .one (.asks (.post request) next)

/-- A step of a thread that sends nothing is not seen on the wire. -/
theorem Pool.Moves.traffic_eq_nil {pool pool' : Pool τ α} {thread : Thread τ α}
    {rest : List (Thread τ α)} {s : List Traffic} (h : Moves pool thread rest s pool')
    (hcalls : ∀ request, ¬ thread.Calls request) : s = [] := by
  cases h with
  | answered hjob _ a _ _ =>
    apply Query.traffic_eq_nil
    intro hcall
    unfold Query.IsCall at hcall
    split at hcall
    · exact hcalls _ ⟨_, hjob⟩
    · exact hcall
  | _ => rfl

/-- The reply that comes in is to the request of the thread. -/
theorem Pool.Moves.sent_eq {pool pool' : Pool τ α} {thread : Thread τ α}
    {rest : List (Thread τ α)} {request request' : RpcRequest} {s : List Traffic}
    (h : Pool.Moves pool thread rest (.sent request :: s) pool') (hcalls : thread.Calls request') :
    request' = request := by
  obtain ⟨next, hjob⟩ := hcalls
  generalize hs : Traffic.sent request :: s = s' at h
  cases h with
  | answered hjob' =>
    cases hjob.symm.trans hjob'
    cases hs
    rfl
  | _ => cases hs

/-- A pool, and the threads that wait for the reply to a request. -/
structure Course (τ α : Type) where
  pool : Pool τ α
  calling : List (Thread τ α)

namespace Course

/-- The course in which routines begin. -/
def begun (routines : List (Routine τ α)) : Course τ α := ⟨Pool.ofJobs (routines.map .one), []⟩

/-- No thread can go on, and no reply is to come. -/
def Done (course : Course τ α) : Prop := course.pool.ready = [] ∧ course.calling = []

/-- One step of any thread, and what the endpoint sees of it. -/
inductive Step : Course τ α → List Traffic → Course τ α → Prop where
  | own {pool pool' : Pool τ α} {calling rest waiting : List (Thread τ α)} {thread : Thread τ α}
      {t : List (Wire.Event τ)} (hready : pool.ready.Perm (thread :: rest))
      (hwaiting : pool.waiting.Perm waiting) (hcalls : ∀ request, ¬ thread.Calls request)
      (h : Pool.step Wire.host Wire.transport { pool with ready := thread :: rest, waiting } t
        pool') : Step ⟨pool, calling⟩ [] ⟨pool', calling⟩
  | call {pool : Pool τ α} {calling rest : List (Thread τ α)} {thread : Thread τ α}
      {request : RpcRequest} (hready : pool.ready.Perm (thread :: rest))
      (hcalls : thread.Calls request) :
      Step ⟨pool, calling⟩ [.sent request] ⟨{ pool with ready := rest }, thread :: calling⟩
  | reply {pool pool' : Pool τ α} {calling others : List (Thread τ α)} {thread : Thread τ α}
      {request : RpcRequest} {reply : Reply} (hcalling : calling.Perm (thread :: others))
      (h : Pool.step Wire.host Wire.transport { pool with ready := thread :: pool.ready }
        [.transport (.posted request reply)] pool') :
      Step ⟨pool, calling⟩ [.received request reply] ⟨pool', others⟩

/-- Any number of steps. -/
inductive Runs : Course τ α → List Traffic → Course τ α → Prop where
  | refl (course : Course τ α) : Runs course [] course
  | step {course course₁ course₂ : Course τ α} {t s : List Traffic} (h : Runs course t course₁)
      (hstep : Step course₁ s course₂) : Runs course (t ++ s) course₂

theorem Runs.trans {course course₁ course₂ : Course τ α} {t₁ t₂ : List Traffic}
    (h₁ : Runs course t₁ course₁) (h₂ : Runs course₁ t₂ course₂) :
    Runs course (t₁ ++ t₂) course₂ := by
  induction h₂ with
  | refl => rwa [List.append_nil]
  | step _ hstep ih =>
    rw [← List.append_assoc]
    exact .step ih hstep

end Course

/-- One query more is answered, of a thread that is ready. -/
theorem Course.Runs.own {course : Course τ α} {pool pool' : Pool τ α} {thread : Thread τ α}
    {rest calling : List (Thread τ α)} {t : List Traffic} {e : List (Wire.Event τ)}
    {query : Query τ} {next : query.Answer → Routine τ α} (h : Runs course t ⟨pool, calling⟩)
    (hready : pool.ready.Perm (thread :: rest)) (hjob : thread.job = .one (.asks query next))
    (hcall : ¬ query.IsCall)
    (hanswer : Pool.answer Wire.host Wire.transport { pool with ready := thread :: rest } thread rest
      query next e pool') : Runs course t ⟨pool', calling⟩ := by
  have hcalls : ∀ request, ¬ thread.Calls request := by
    rintro request ⟨k, hk⟩
    cases hjob.symm.trans hk
    exact hcall trivial
  have hstep : Step ⟨pool, calling⟩ [] ⟨pool', calling⟩ := by
    refine .own hready (.refl _) hcalls ?_ (t := e)
    unfold Pool.step
    simp only [hjob]
    exact hanswer
  have hall := Runs.step h hstep
  rwa [List.append_nil] at hall


/-- A thread that is ready comes to its end. -/
theorem Course.Runs.ended {course : Course τ α} {pool : Pool τ α} {thread : Thread τ α}
    {rest calling : List (Thread τ α)} {t : List Traffic} {a : α}
    (h : Runs course t ⟨pool, calling⟩) (hready : pool.ready.Perm (thread :: rest))
    (hjob : thread.job = .one (.ended a)) : Runs course t
      ⟨{ pool with ready := rest, results := (thread.place, a) :: pool.results }, calling⟩ := by
  have hcalls : ∀ request, ¬ thread.Calls request := by
    rintro request ⟨k, hk⟩
    cases hjob.symm.trans hk
  have hpool : Pool.step Wire.host Wire.transport { pool with ready := thread :: rest } []
      { pool with ready := rest, results := (thread.place, a) :: pool.results } := by
    unfold Pool.step
    simp only [hjob]
    exact ⟨rfl, rfl⟩
  have hall := h.step (.own hready (.refl _) hcalls hpool)
  rwa [List.append_nil] at hall

/-! ## Places -/

/-- The places of all threads, and of those that have ended. -/
def Course.places (course : Course τ α) : List (List Nat) :=
  (course.pool.ready ++ course.calling ++ course.pool.waiting).map Thread.place ++
    course.pool.results.map Prod.fst

theorem Course.count_places (course : Course τ α) (place : List Nat) :
    course.places.count place = (course.pool.ready.map Thread.place).count place +
      (course.calling.map Thread.place).count place +
      (course.pool.waiting.map Thread.place).count place +
      (course.pool.results.map Prod.fst).count place := by
  simp [places, Nat.add_assoc]

/-- A step of a routine changes no place. -/
theorem Pool.Moves.places_perm {pool pool' : Pool τ α} {thread : Thread τ α}
    {rest calling : List (Thread τ α)} {s : List Traffic} {routine : Routine τ α}
    (hfront : pool.ready = thread :: rest) (hjob : thread.job = .one routine)
    (h : Moves pool thread rest s pool') :
    (Course.mk pool' calling).places.Perm (Course.mk pool calling).places := by
  rw [List.perm_iff_count]
  intro place
  simp only [Course.count_places, hfront]
  cases h with
  | begun hjob' => cases hjob.symm.trans hjob'
  | answered _ _ _ _ hready =>
    have hcount := (hready.map Thread.place).count_eq place
    simp [Thread.on, List.count_cons] at hcount ⊢
    omega
  | handedOver _ hwaiting =>
    simp [Thread.on, List.count_cons, hwaiting]
    omega
  | _ =>
    simp [Thread.on, List.count_cons]
    try omega

/-- Routines that are begun together are numbered. -/
theorem Course.begun_places (routines : List (Routine τ α)) :
    (begun routines).places = (List.range routines.length).map fun n => [n] := by
  have hnumbers := List.zipIdx_map_snd 0 (routines.map Job.one)
  rw [List.length_map, ← List.range_eq_range'] at hnumbers
  rw [← hnumbers, List.map_map]
  simp only [places, begun, Pool.ofJobs, Pool.threads, List.append_nil, List.map_nil, List.map_map]
  rfl

theorem Course.mem_begun {routines : List (Routine τ α)} {thread : Thread τ α}
    (h : thread ∈ (begun routines).pool.ready) :
    ∃ n routine, routines[n]? = some routine ∧ thread = ⟨[n], none, .one routine⟩ := by
  obtain ⟨⟨job, n⟩, hjob, rfl⟩ := List.mem_map.1 h
  rw [List.mem_zipIdx_iff_getElem?, List.getElem?_map, Option.map_eq_some_iff] at hjob
  obtain ⟨routine, hroutine, rfl⟩ := hjob
  exact ⟨n, routine, hroutine, rfl⟩

/-! ## The order of a pool -/

namespace Pool

variable {pool pool' : Pool τ α} {t : List (Wire.Event τ)}

/-- One step of a pool is one or two of a course: a reply comes in at once. -/
theorem step_course {thread : Thread τ α} {rest calling : List (Thread τ α)}
    (hready : pool.ready = thread :: rest) (h : step Wire.host Wire.transport pool t pool') :
    Course.Runs ⟨pool, calling⟩ (Wire.traffic t) ⟨pool', calling⟩ := by
  have hpool : { pool with ready := thread :: rest } = pool := by rw [← hready]
  by_cases hcalls : ∃ request, thread.Calls request
  · obtain ⟨request, next, hjob⟩ := hcalls
    have hsent : Course.Step ⟨pool, calling⟩ [.sent request]
        ⟨{ pool with ready := rest }, thread :: calling⟩ :=
      .call (.of_eq hready) ⟨next, hjob⟩
    obtain ⟨reply, rfl⟩ : ∃ reply, t = [.transport (.posted request reply)] := by
      unfold step at h
      simp only [hready, hjob] at h
      obtain ⟨_, reply, _, ⟨rfl, -⟩, ⟨rfl, -⟩, rfl⟩ := bind_iff.1 h
      exact ⟨reply, rfl⟩
    have hreceived : Course.Step ⟨{ pool with ready := rest }, thread :: calling⟩
        [.received request reply] ⟨pool', calling⟩ :=
      .reply (.refl _) (hpool ▸ h)
    have hboth : Course.Runs ⟨pool, calling⟩ ([] ++ [.sent request] ++ [.received request reply])
        ⟨pool', calling⟩ := .step (.step (.refl _) hsent) hreceived
    exact hboth
  · have hcalls : ∀ request, ¬ thread.Calls request := fun request hr => hcalls ⟨request, hr⟩
    rw [(step_moves hready h).traffic_eq_nil hcalls]
    exact .step (.refl _) (.own (.of_eq hready) (.refl _) hcalls (hpool ▸ h))

/-- The order in which a pool runs its threads is one of the schedules. -/
theorem run_course {steps : Nat} {calling : List (Thread τ α)}
    (h : run Wire.host Wire.transport steps pool t pool') :
    Course.Runs ⟨pool, calling⟩ (Wire.traffic t) ⟨pool', calling⟩ := by
  induction steps generalizing pool t with
  | zero =>
    obtain ⟨rfl, rfl⟩ := pure_iff.1 h
    exact .refl _
  | succ steps ih =>
    unfold run at h
    cases hready : pool.ready with
    | nil =>
      simp only [hready] at h
      obtain ⟨rfl, rfl⟩ := pure_iff.1 h
      exact .refl _
    | cons thread rest =>
      simp only [hready] at h
      obtain ⟨t₁, pool₁, t₂, hstep, hrest, rfl⟩ := bind_iff.1 h
      rw [Wire.traffic_append]
      exact (step_course hready hstep).trans (ih hrest)

end Pool
end StorageAgent
