import StorageAgent.Endpoint.Session

/-!
# Pools

A pool runs routines of one client together on one machine. A routine is a
computation that shows each of its calls to the machine and to the endpoint, so
it can be put aside between two of them. Those that are ready stand in a queue.
The first of them runs until it sleeps, which puts it at the end of the queue, or
asks for the lock while another one holds it. The lock goes to the routines in
the order in which they asked for it: whoever releases it hands it to the one
that has waited longest, and that one joins the queue.

Each routine has a log context of its own.
-/
namespace StorageAgent

/-! ## Routines -/

/-- What a computation asks the machine or the endpoint for. -/
inductive Query (τ : Type) where
  | now
  | sleep (delay : τ)
  | draw
  | log (line : Log.Line)
  | setContext (context : Option Log.Context)
  | acquire
  | release
  | nextId
  | post (request : RpcRequest)

/-- What it is answered with. -/
def Query.Answer {τ : Type} : Query τ → Type
  | now => τ
  | sleep _ => Unit
  | draw => τ
  | log _ => Unit
  | setContext _ => Unit
  | acquire => Unit
  | release => Unit
  | nextId => Nat
  | post _ => Reply

/-- A computation that has ended, or asks for something. -/
inductive Routine (τ α : Type) where
  | ended (a : α)
  | asks (query : Query τ) (next : query.Answer → Routine τ α)

namespace Routine

variable {τ α β : Type}

/-- One routine after another. -/
def andThen (f : α → Routine τ β) : Routine τ α → Routine τ β
  | ended a => f a
  | asks query next => asks query fun answer => andThen f (next answer)

instance : Monad (Routine τ) where
  pure := ended
  bind routine f := andThen f routine

@[simp] theorem pure_eq (a : α) : (pure a : Routine τ α) = ended a := rfl

@[simp] theorem ended_bind (a : α) (f : α → Routine τ β) : (ended a >>= f) = f a := rfl

@[simp] theorem asks_bind (query : Query τ) (next : query.Answer → Routine τ α) (f : α → Routine τ β) :
    (asks query next >>= f) = asks query fun answer => next answer >>= f := rfl

def ask (query : Query τ) : Routine τ query.Answer := asks query ended

def host : Host (Routine τ) τ where
  now := ask .now
  sleep delay := ask (.sleep delay)
  draw := ask .draw
  log line := ask (.log line)
  setContext context := ask (.setContext context)
  acquire := ask .acquire
  release := ask .release
  exhausted := pure (.of .outOfRounds)

def transport : Transport (Routine τ) where
  nextId := ask .nextId
  post request := ask (.post request)

end Routine

/-! ## Pools -/

/-- Work for a pool: one routine, or a number of jobs that are begun together. -/
inductive Job (τ α : Type) where
  | one (routine : Routine τ α)
  | all (jobs : List (Job τ α))

instance {τ α : Type} : Inhabited (Job τ α) := ⟨.all []⟩

/-- A job under way. Its place tells which job it is: the last number is its position among the jobs
that were begun with it, and those before are the place of the job that began them. -/
structure Thread (τ α : Type) where
  place : List Nat
  context : Option Log.Context
  job : Job τ α

def Thread.on {τ α : Type} (thread : Thread τ α) (routine : Routine τ α) : Thread τ α :=
  { thread with job := .one routine }

/-- The state of a pool. -/
structure Pool (τ α : Type) where
  ready : List (Thread τ α)
  /-- The threads that wait for the lock, the one that has waited longest first. -/
  waiting : List (Thread τ α)
  locked : Bool
  /-- The results of the routines that have ended, by their places. -/
  results : List (List Nat × α)

namespace Pool

variable {m : Type → Type} [Monad m] {τ α : Type}

/-- The threads of jobs that are begun together. -/
def threads (place : List Nat) (context : Option Log.Context) (jobs : List (Job τ α)) :
    List (Thread τ α) :=
  jobs.zipIdx.map fun (job, n) => ⟨place ++ [n], context, job⟩

def ofJobs (jobs : List (Job τ α)) : Pool τ α := ⟨threads [] none jobs, [], false, []⟩

/-- Answers the first query of a thread, the others that are ready being `rest`. -/
def answer (host : Host m τ) (transport : Transport m) (pool : Pool τ α) (thread : Thread τ α)
    (rest : List (Thread τ α)) (query : Query τ) (next : query.Answer → Routine τ α) : m (Pool τ α) :=
  let goOn := fun routine => { pool with ready := thread.on routine :: rest }
  match query with
  | .now => do return goOn (next (← host.now))
  | .sleep delay => do
    host.sleep delay
    return { pool with ready := rest ++ [thread.on (next ())] }
  | .draw => do return goOn (next (← host.draw))
  | .log line => do
    -- the context goes with the thread, and the machine has one for all of them
    host.setContext thread.context
    host.log line
    host.setContext none
    return goOn (next ())
  | .setContext context =>
    return { pool with ready := { thread.on (next ()) with context } :: rest }
  | .acquire =>
    if pool.locked then
      return { pool with ready := rest, waiting := pool.waiting ++ [thread.on (next ())] }
    else return { goOn (next ()) with locked := true }
  | .release =>
    match pool.waiting with
    | [] => return { goOn (next ()) with locked := false }
    -- the lock is handed over, so it stays locked
    | first :: waiting =>
      return { pool with ready := thread.on (next ()) :: rest ++ [first], waiting }
  | .nextId => do return goOn (next (← transport.nextId))
  | .post request => do return goOn (next (← transport.post request))

/-- One step of the first thread that is ready; nothing changes if none is. -/
def step (host : Host m τ) (transport : Transport m) (pool : Pool τ α) : m (Pool τ α) :=
  match pool.ready with
  | [] => return pool
  | thread :: rest =>
    match thread.job with
    | .all jobs =>
      return { pool with ready := rest ++ threads thread.place thread.context jobs }
    | .one (.ended a) =>
      return { pool with ready := rest, results := (thread.place, a) :: pool.results }
    | .one (.asks query next) => answer host transport pool thread rest query next

/-- Runs a pool until no thread is ready, for at most `steps` steps. -/
def run (host : Host m τ) (transport : Transport m) : Nat → Pool τ α → m (Pool τ α)
  | 0, pool => return pool
  | steps + 1, pool =>
    if pool.ready.isEmpty then return pool
    else do
      let pool ← step host transport pool
      run host transport steps pool

def result? (pool : Pool τ α) (place : List Nat) : Option α := pool.results.lookup place

end Pool

end StorageAgent
