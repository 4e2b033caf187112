import StorageAgent.Proofs.Confirmation.Dialogue
import StorageAgent.Proofs.Seconds

/-!
# Worlds

The machine and the ledger of a dialogue may answer anything, so a computation has many runs. A world
has made up its mind: it gives one answer to each question, which may depend on all that happened
before. A clock that keeps time, a script that is read out line by line, and a cluster that goes
through states of its own are all worlds.

In a world a computation has one run, and `World.run` computes it. The operations of the library are
run as they are, in the monad of computations that keep a history.

* `World.await_rounds`: the run of polling in a world is taken apart into its rounds, and the answers
  are those of the world.
* `World.await_run`: unless the rounds are used up, it is one of the runs of the dialogue.
-/
namespace StorageAgent

open Behaviour

/-- What happened so far, in its order. -/
abbrev Dialogue.History (τ : Type) : Type := List (Dialogue.Event τ)

/-- What is answered to each question, after all that happened before it. -/
structure World (τ : Type) where
  now : Dialogue.History τ → τ
  draw : Dialogue.History τ → τ
  latestBlockhash : Dialogue.History τ → Except Failure Checkpoint
  send : Dialogue.History τ → Bytes → Except Failure Json
  status : Dialogue.History τ → Json → Except Failure (Option SignatureStatus)
  height : Dialogue.History τ → Except Failure Json
  account : Dialogue.History τ → Address → Except Failure (Option Bytes)

namespace World

variable {τ α β : Type}

/-- A question is answered, and the history goes on with that. -/
def answer (event : α → Dialogue.Event τ) (tell : Dialogue.History τ → α) :
    StateM (Dialogue.History τ) α :=
  fun h => (tell h, h ++ [event (tell h)])

/-- The machine in a world. -/
def host (w : World τ) : Host (StateM (Dialogue.History τ)) τ where
  now := answer (fun time => .host (.read time)) w.now
  sleep delay := answer (fun _ => .host (.slept delay)) fun _ => ()
  draw := answer (fun u => .host (.drew u)) w.draw
  log line := answer (fun _ => .host (.logged line)) fun _ => ()
  setContext context := answer (fun _ => .host (.told context)) fun _ => ()
  acquire := answer (fun _ => .host .acquired) fun _ => ()
  release := answer (fun _ => .host .released) fun _ => ()
  exhausted := pure (.of .outOfRounds)

/-- The ledger in a world. -/
def ledger (w : World τ) : Ledger (StateM (Dialogue.History τ)) where
  latestBlockhash := .mk (answer (fun a => .ledger (.checkpoint a)) w.latestBlockhash)
  send raw := .mk (answer (fun a => .ledger (.sent raw a)) fun h => w.send h raw)
  status signature :=
    .mk (answer (fun a => .ledger (.status signature a)) fun h => w.status h signature)
  height := .mk (answer (fun a => .ledger (.height a)) w.height)
  account address :=
    .mk (answer (fun a => .ledger (.account address a)) fun h => w.account h address)

/-- The result of a computation, and what happened in it. -/
def run (x : ExceptT Failure (StateM (Dialogue.History τ)) α) : Except Failure α × Dialogue.History τ :=
  x.run []

/-! ## What a world answers -/

/-- After a history the world gives the answer that an event tells of. -/
def Tells (w : World τ) (h : Dialogue.History τ) : Dialogue.Event τ → Prop
  | .host (.read time) => time = w.now h
  | .host (.drew u) => u = w.draw h
  | .host _ => True
  | .ledger (.checkpoint a) => a = w.latestBlockhash h
  | .ledger (.sent raw a) => a = w.send h raw
  | .ledger (.status signature a) => a = w.status h signature
  | .ledger (.height a) => a = w.height h
  | .ledger (.account address a) => a = w.account h address

/-- After a history all of this happens, with the answers of the world. -/
def Hears (w : World τ) : Dialogue.History τ → Dialogue.History τ → Prop
  | _, [] => True
  | h, e :: t => w.Tells h e ∧ w.Hears (h ++ [e]) t

variable {w : World τ} {h : Dialogue.History τ}

theorem hears_append {t₁ t₂ : Dialogue.History τ} :
    w.Hears h (t₁ ++ t₂) ↔ w.Hears h t₁ ∧ w.Hears (h ++ t₁) t₂ := by
  induction t₁ generalizing h with
  | nil => simp [Hears]
  | cons e t₁ ih => simp [Hears, ih, and_assoc]

/-- The calls to the ledger in what happens after a history, each with the time when it is made. -/
def timed (w : World τ) : Dialogue.History τ → Dialogue.History τ → List (τ × Ledger.Event)
  | _, [] => []
  | h, .ledger e :: t => (w.now h, e) :: w.timed (h ++ [.ledger e]) t
  | h, .host e :: t => w.timed (h ++ [.host e]) t

theorem timed_append {t₁ t₂ : Dialogue.History τ} :
    w.timed h (t₁ ++ t₂) = w.timed h t₁ ++ w.timed (h ++ t₁) t₂ := by
  induction t₁ generalizing h with
  | nil => simp [timed]
  | cons e t₁ ih => cases e <;> simp [timed, ih]

theorem map_timed (t : Dialogue.History τ) : (w.timed h t).map Prod.snd = Dialogue.calls t := by
  induction t generalizing h with
  | nil => rfl
  | cons e t ih => cases e <;> simp [timed, ih]

theorem exists_mem_timed {t : Dialogue.History τ} {e : Ledger.Event} (he : e ∈ Dialogue.calls t) :
    ∃ now, (now, e) ∈ w.timed h t := by
  rw [← map_timed (w := w) (h := h)] at he
  obtain ⟨c, hc, rfl⟩ := List.mem_map.1 he
  exact ⟨c.1, hc⟩

/-- What holds of each answer of a world at its time holds of all that is heard. -/
theorem forall_timed {P : τ → Ledger.Event → Prop}
    (hP : ∀ h e, w.Tells h (.ledger e) → P (w.now h) e) {t : Dialogue.History τ}
    (hhears : w.Hears h t) : ∀ c ∈ w.timed h t, P c.1 c.2 := by
  induction t generalizing h with
  | nil => exact List.forall_mem_nil _
  | cons e t ih =>
    obtain ⟨htells, hhears⟩ := hhears
    cases e with
    | host e => exact ih hhears
    | ledger e => exact List.forall_mem_cons.2 ⟨hP h e htells, ih hhears⟩

/-! ## Computations in a world -/

/-- What a computation does in a world is one of its runs, with the answers of that world. -/
def Renders (w : World τ) (x : ExceptT Failure (StateM (Dialogue.History τ)) α)
    (y : ExceptT Failure (Behaviour (Dialogue.Event τ)) α) : Prop :=
  ∀ h, ∃ t, (x.run h).2 = h ++ t ∧ w.Hears h t ∧ Run y t (x.run h).1

namespace Renders

theorem pure (a : α) : w.Renders (pure a) (pure a) :=
  fun _ => ⟨[], (List.append_nil _).symm, trivial, run_pure.2 ⟨rfl, rfl⟩⟩

theorem throw (f : Failure) :
    w.Renders (throw f : ExceptT Failure (StateM (Dialogue.History τ)) α) (MonadExcept.throw f) :=
  fun _ => ⟨[], (List.append_nil _).symm, trivial, run_throw.2 ⟨rfl, rfl⟩⟩

theorem except (x : Except Failure α) : w.Renders (liftM x) (liftM x) :=
  fun _ => ⟨[], (List.append_nil _).symm, trivial, run_except.2 ⟨rfl, rfl⟩⟩

/-- A question that may fail. -/
theorem asked {event : Except Failure α → Dialogue.Event τ}
    {tell : Dialogue.History τ → Except Failure α} (htell : ∀ h, w.Tells h (event (tell h))) :
    w.Renders (.mk (answer event tell)) (.mk (answered event)) :=
  fun h => ⟨_, rfl, ⟨htell h, trivial⟩, rfl⟩

theorem answer (event : α → Dialogue.Event τ) (tell : Dialogue.History τ → α)
    (htell : ∀ h, w.Tells h (event (tell h))) :
    w.Renders (liftM (World.answer event tell)) (liftM (answered event)) :=
  fun h => ⟨_, rfl, ⟨htell h, trivial⟩, run_lift.2 ⟨_, rfl, rfl⟩⟩

/-- A computation whose result is then looked at, a failure too. -/
theorem read {x : ExceptT Failure (StateM (Dialogue.History τ)) α}
    {y : ExceptT Failure (Behaviour (Dialogue.Event τ)) α}
    {f : Except Failure α → StateM (Dialogue.History τ) (Except Failure β)}
    {g : Except Failure α → Behaviour (Dialogue.Event τ) (Except Failure β)} (hx : w.Renders x y)
    (hf : ∀ r, w.Renders (.mk (f r)) (.mk (g r))) :
    w.Renders (.mk (x.run >>= f)) (.mk (y.run >>= g)) := by
  intro h
  obtain ⟨t₁, hpast, hhears, hrun⟩ := hx h
  obtain ⟨t₂, hpast₂, hhears₂, hrun₂⟩ := hf (x.run h).1 (h ++ t₁)
  rw [← hpast] at hpast₂ hrun₂
  refine ⟨t₁ ++ t₂, ?_, hears_append.2 ⟨hhears, hhears₂⟩, ⟨t₁, _, t₂, hrun, hrun₂, rfl⟩⟩
  rw [← List.append_assoc, ← hpast]
  exact hpast₂

theorem bind {x : ExceptT Failure (StateM (Dialogue.History τ)) α}
    {y : ExceptT Failure (Behaviour (Dialogue.Event τ)) α}
    {f : α → ExceptT Failure (StateM (Dialogue.History τ)) β}
    {g : α → ExceptT Failure (Behaviour (Dialogue.Event τ)) β} (hx : w.Renders x y)
    (hf : ∀ a, w.Renders (f a) (g a)) : w.Renders (x >>= f) (y >>= g) := by
  refine read hx fun r => ?_
  cases r with
  | ok a => exact hf a
  | error e => exact throw e

end Renders

/-! ## Polling in a world -/

section
open Confirmation

variable {commitment : Commitment} {polling : Polling τ} {signature limit : Json}

theorem renders_now : w.Renders (liftM w.host.now) (liftM (Dialogue.host (τ := τ)).now) :=
  .answer (fun time => .host (.read time)) w.now fun _ => rfl

theorem renders_sleep (delay : τ) :
    w.Renders (liftM (w.host.sleep delay)) (liftM ((Dialogue.host (τ := τ)).sleep delay)) :=
  .answer (fun _ => .host (.slept delay)) (fun _ => ()) fun _ => trivial

theorem renders_log (line : Log.Line) :
    w.Renders (liftM (w.host.log line)) (liftM ((Dialogue.host (τ := τ)).log line)) :=
  .answer (fun _ => .host (.logged line)) (fun _ => ()) fun _ => trivial

theorem renders_tolerate {describe : TransportFault → String}
    {x : ExceptT Failure (StateM (Dialogue.History τ)) α}
    {y : ExceptT Failure (Behaviour (Dialogue.Event τ)) α} (hx : w.Renders x y) :
    w.Renders (tolerate w.host describe x) (tolerate Dialogue.host describe y) := by
  refine .read hx fun r => ?_
  split
  · exact .pure _
  · exact fun _ => ⟨[_], rfl, ⟨trivial, trivial⟩, _, (), [], rfl, ⟨rfl, rfl⟩, rfl⟩
  · exact .throw _

theorem renders_decided (status : SignatureStatus) :
    w.Renders (decided w.host commitment signature status)
      (decided Dialogue.host commitment signature status) := by
  unfold decided
  split
  · exact .bind (.except _) fun _ => .bind (renders_log _) fun _ => .pure _
  · split
    · exact .bind (renders_log _) fun _ => .pure _
    · exact .pure _

theorem renders_checkExpiry :
    w.Renders (checkExpiry w.host w.ledger signature limit)
      (checkExpiry Dialogue.host Dialogue.ledger signature limit) := by
  refine .bind (renders_tolerate (.asked fun _ => rfl)) fun answer => ?_
  split
  · exact .pure _
  · split
    · exact .throw _
    · exact .throw _
    · exact .pure _

theorem renders_poll :
    w.Renders (poll w.host w.ledger commitment signature limit)
      (poll Dialogue.host Dialogue.ledger commitment signature limit) := by
  refine .bind (renders_tolerate (.asked fun _ => rfl)) fun answer => ?_
  split
  · exact .pure _
  · exact renders_decided _
  · split
    · exact .pure _
    · exact .bind renders_checkExpiry fun _ => .pure _

variable [Seconds τ]

theorem renders_timedOut :
    w.Renders (timedOut w.host polling signature) (timedOut Dialogue.host polling signature) :=
  .bind (renders_log _) fun _ => .pure _

theorem renders_pollFrom {start : τ} : ∀ (rounds : Nat) (interval : τ),
    w.Renders (pollFrom w.host w.ledger commitment polling signature limit start rounds interval)
      (pollFrom (.answering True .host) Dialogue.ledger commitment polling signature limit start
        rounds interval) := by
  intro rounds
  induction rounds with
  | zero => exact fun _ h => ⟨[], (List.append_nil h).symm, trivial, Rounds.run (.exhausted trivial)⟩
  | succ rounds ih =>
    intro interval
    refine .bind renders_now fun now => ?_
    split
    · exact renders_timedOut
    refine .bind renders_poll fun outcome => ?_
    split
    · exact .pure _
    refine .bind renders_now fun later => ?_
    dsimp only
    split
    · exact renders_timedOut
    · exact .bind (renders_sleep _) fun _ => ih _

/-- Polling in a world begins with a look at its clock, and is taken apart into its rounds. -/
theorem await_rounds {t : Dialogue.History τ} {r : Except Failure Outcome}
    (h : run (await w.host w.ledger commitment polling signature limit) = (r, t)) :
    ∃ polls t', t = .host (.read (w.now [])) :: t' ∧ w.Hears [.host (.read (w.now []))] t' ∧
      Rounds True .host Dialogue.ledger commitment polling signature limit (w.now [])
        polling.rounds polling.interval polls t' r := by
  have hrenders : w.Renders (await w.host w.ledger commitment polling signature limit)
      (await (.answering True .host) Dialogue.ledger commitment polling signature limit) :=
    .bind renders_now fun _ => renders_pollFrom _ _
  obtain ⟨t', hpast, hhears, hrun⟩ := hrenders []
  rw [show ExceptT.run (await w.host w.ledger commitment polling signature limit) [] = (r, t) from h]
    at hpast hrun
  obtain rfl : t = t' := hpast
  obtain ⟨start, polls, t', rfl, hrounds⟩ := await_iff.1 hrun
  obtain ⟨hstart, hhears⟩ := hhears
  obtain rfl : start = w.now [] := hstart
  exact ⟨polls, t', rfl, hhears, hrounds⟩

/-- What polling does in a world is a run of its dialogue, if it has rounds enough. -/
theorem await_run {t : Dialogue.History τ} {r : Except Failure Outcome}
    (h : run (await w.host w.ledger commitment polling signature limit) = (r, t))
    (hrounds : r ≠ .error (.of .outOfRounds)) :
    Run (await Dialogue.host Dialogue.ledger commitment polling signature limit) t r := by
  obtain ⟨polls, t', rfl, -, hpolls⟩ := await_rounds h
  exact await_iff.2 ⟨_, polls, t', rfl, hpolls.free (fun _ => hrounds) (Nat.le_refl _)⟩

end

/-! ## Worlds with a timeline -/

/-- The time that all of this takes, if each call to the ledger takes `pace`. -/
def elapsed (pace : ℚ) (h : Dialogue.History ℚ) : ℚ :=
  (h.map fun
    | .host (.slept delay) => delay
    | .host _ => 0
    | .ledger _ => pace).sum

/-- Calls take `pace`, the status of a transaction depends on the time alone, and no block is
added. -/
def timeline (pace : ℚ) (status : ℚ → Option SignatureStatus) : World ℚ where
  now := elapsed pace
  draw _ := 0
  latestBlockhash _ := .ok ⟨none, .null⟩
  send _ _ := .ok (.text "signature")
  status h _ := .ok (status (elapsed pace h))
  height _ := .ok (.int 0)
  account _ _ := .ok none

/-- What happens next moves the clock of a timeline on by as long as it takes. -/
theorem timeline_concat (pace : ℚ) (status : ℚ → Option SignatureStatus) (h : Dialogue.History ℚ)
    (e : Dialogue.Event ℚ) : (timeline pace status).now (h ++ [e]) =
      (timeline pace status).now h + elapsed pace [e] := by
  simp [timeline, elapsed]

end World
end StorageAgent
