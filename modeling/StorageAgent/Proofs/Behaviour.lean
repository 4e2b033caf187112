import StorageAgent.Error.Failure
import StorageAgent.Host

/-!
# Behaviours

The client asks the machine and the network, and either may answer in many ways.
A behaviour is the set of all finite runs of a computation: each leaves a trace,
the events in the order in which they happened, and has a result. The operations
of the library are written over any monad, so `Behaviour` reads each of them as
the set of its runs, whatever the clock, chance and the network do. What a world
may do is then a condition on traces, apart from the computation.

* `run_bind`: a run of two computations in a row is a run of the first and, if it
  does not fail, a run of the second behind it.
* `Ends`: a computation has a run.
* `Leaves`: all events that a computation can leave are of some kind.
* `FailsBy`: a computation fails in some way exactly if an event of its trace
  shows it, or else in silence.

These predicates hold of a program if they hold of its parts (`Ends.bind`,
`Leaves.bind`, `FailsBy.bind`).
-/
namespace StorageAgent

/-- The runs of a computation: the traces that it may leave, each with its result. -/
def Behaviour (ε α : Type) : Type := List ε → α → Prop

namespace Behaviour

variable {ε α β : Type}

instance : Monad (Behaviour ε) where
  pure a := fun t b => t = [] ∧ b = a
  bind x f := fun t b => ∃ t₁ a t₂, x t₁ a ∧ f a t₂ b ∧ t = t₁ ++ t₂

/-- One event, and any answer; the event tells which. -/
def answered (event : α → ε) : Behaviour ε α := fun t a => t = [event a]

/-- A computation that may fail leaves the trace `t` and has the result `r`. -/
def Run (x : ExceptT Failure (Behaviour ε) α) (t : List ε) (r : Except Failure α) : Prop :=
  x.run t r

theorem pure_iff {a b : α} {t : List ε} : (pure a : Behaviour ε α) t b ↔ t = [] ∧ b = a := Iff.rfl

theorem bind_iff {x : Behaviour ε α} {f : α → Behaviour ε β} {t : List ε} {b : β} :
    (x >>= f) t b ↔ ∃ t₁ a t₂, x t₁ a ∧ f a t₂ b ∧ t = t₁ ++ t₂ := Iff.rfl

theorem map_iff {x : Behaviour ε α} {f : α → β} {t : List ε} {b : β} :
    (f <$> x) t b ↔ ∃ a, x t a ∧ b = f a := by
  constructor
  · rintro ⟨t₁, a, t₂, hx, ⟨rfl, rfl⟩, rfl⟩
    exact ⟨a, by simpa using hx, rfl⟩
  · rintro ⟨a, hx, rfl⟩
    exact ⟨t, a, [], hx, ⟨rfl, rfl⟩, by simp⟩

theorem run_mk {x : Behaviour ε (Except Failure α)} {t : List ε} {r : Except Failure α} :
    Run (ExceptT.mk x) t r ↔ x t r := Iff.rfl

theorem run_pure {a : α} {t : List ε} {r : Except Failure α} :
    Run (pure a) t r ↔ t = [] ∧ r = .ok a := Iff.rfl

theorem run_throw {f : Failure} {t : List ε} {r : Except Failure α} :
    Run (throw f) t r ↔ t = [] ∧ r = .error f := Iff.rfl

theorem run_except {x : Except Failure α} {t : List ε} {r : Except Failure α} :
    Run (liftM x) t r ↔ t = [] ∧ r = x := Iff.rfl

theorem run_lift {x : Behaviour ε α} {t : List ε} {r : Except Failure α} :
    Run (liftM x) t r ↔ ∃ a, x t a ∧ r = .ok a := by
  constructor
  · rintro ⟨t₁, a, t₂, hx, ⟨rfl, rfl⟩, rfl⟩
    exact ⟨a, by simpa using hx, rfl⟩
  · rintro ⟨a, hx, rfl⟩
    exact ⟨t, a, [], hx, ⟨rfl, rfl⟩, by simp⟩

theorem run_bind {x : ExceptT Failure (Behaviour ε) α} {f : α → ExceptT Failure (Behaviour ε) β}
    {t : List ε} {r : Except Failure β} :
    Run (x >>= f) t r ↔
      (∃ t₁ a t₂, Run x t₁ (.ok a) ∧ Run (f a) t₂ r ∧ t = t₁ ++ t₂) ∨
        ∃ e, Run x t (.error e) ∧ r = .error e := by
  constructor
  · rintro ⟨t₁, a, t₂, hx, hf, rfl⟩
    cases a with
    | ok a => exact .inl ⟨t₁, a, t₂, hx, hf, rfl⟩
    | error e =>
      obtain ⟨rfl, rfl⟩ := hf
      exact .inr ⟨e, by rw [List.append_nil]; exact hx, rfl⟩
  · rintro (⟨t₁, a, t₂, hx, hf, rfl⟩ | ⟨e, hx, rfl⟩)
    · exact ⟨t₁, .ok a, t₂, hx, hf, rfl⟩
    · exact ⟨t, .error e, [], hx, ⟨rfl, rfl⟩, by simp⟩

theorem run_throw_bind {e : Failure} {f : α → ExceptT Failure (Behaviour ε) β} {t : List ε}
    {r : Except Failure β} : Run (throw e >>= f) t r ↔ t = [] ∧ r = .error e := by
  simp [run_bind, run_throw, and_assoc]

/-- A result that is there already, and then what happens with it. -/
theorem run_ok_bind {a : α} {f : α → ExceptT Failure (Behaviour ε) β} {t : List ε}
    {r : Except Failure β} :
    Run (liftM (.ok a : Except Failure α) >>= f) t r ↔ Run (f a) t r := by
  constructor
  · intro h
    obtain ⟨_, _, t, ⟨rfl, ha⟩, hrest, rfl⟩ | ⟨_, ⟨-, ha⟩, -⟩ := run_bind.1 h
    · cases ha
      exact hrest
    · cases ha
  · intro h
    exact run_bind.2 (.inl ⟨[], a, t, ⟨rfl, rfl⟩, h, rfl⟩)

theorem run_error_bind {e : Failure} {f : α → ExceptT Failure (Behaviour ε) β} {t : List ε}
    {r : Except Failure β} :
    Run (liftM (.error e : Except Failure α) >>= f) t r ↔ t = [] ∧ r = .error e :=
  run_throw_bind

/-- A check, and then what happens if it does not fail. -/
theorem run_check_bind {p : Prop} [Decidable p] {e : Failure}
    {f : Unit → ExceptT Failure (Behaviour ε) α} {t : List ε} {r : Except Failure α} :
    Run (if p then (throw e >>= f) else f ()) t r ↔
      (p ∧ t = [] ∧ r = .error e) ∨ (¬ p ∧ Run (f ()) t r) := by
  by_cases h : p
  · simp [h, run_throw_bind]
  · simp [h]

theorem run_check_bind_ok {p : Prop} [Decidable p] {e : Failure}
    {f : Unit → ExceptT Failure (Behaviour ε) α} {t : List ε} {a : α} :
    Run (if p then (throw e >>= f) else f ()) t (.ok a) ↔ ¬ p ∧ Run (f ()) t (.ok a) := by
  simp [run_check_bind]

theorem run_bind_ok {x : ExceptT Failure (Behaviour ε) α}
    {f : α → ExceptT Failure (Behaviour ε) β} {t : List ε} {b : β} :
    Run (x >>= f) t (.ok b) ↔
      ∃ t₁ a t₂, Run x t₁ (.ok a) ∧ Run (f a) t₂ (.ok b) ∧ t = t₁ ++ t₂ := by
  simp [run_bind]

/-- A computation that cannot fail, and then another. -/
theorem run_lift_bind {x : Behaviour ε α} {f : α → ExceptT Failure (Behaviour ε) β}
    {t : List ε} {r : Except Failure β} :
    Run (liftM x >>= f) t r ↔ ∃ t₁ a t₂, x t₁ a ∧ Run (f a) t₂ r ∧ t = t₁ ++ t₂ := by
  simp [run_bind, run_lift]

/-- A computation whose result is then read. -/
theorem run_read {x : ExceptT Failure (Behaviour ε) α} {f : α → Except Failure β} {t : List ε}
    {r : Except Failure β} :
    Run (x >>= fun a => liftM (f a)) t r ↔ ∃ a, Run x t a ∧ r = a >>= f := by
  constructor
  · rintro ⟨t₁, a, t₂, hx, hf, rfl⟩
    cases a with
    | ok a =>
      obtain ⟨rfl, rfl⟩ := hf
      exact ⟨.ok a, by rw [List.append_nil]; exact hx, rfl⟩
    | error e =>
      obtain ⟨rfl, rfl⟩ := hf
      exact ⟨.error e, by rw [List.append_nil]; exact hx, rfl⟩
  · rintro ⟨a, hx, rfl⟩
    refine ⟨t, a, [], hx, ?_, by simp⟩
    cases a with
    | ok a => exact ⟨rfl, rfl⟩
    | error e => exact ⟨rfl, rfl⟩

/-! ## Computations that come to an end -/

/-- There is a run. -/
def Ends (x : ExceptT Failure (Behaviour ε) α) : Prop := ∃ t r, Run x t r

theorem Ends.pure (a : α) : Ends (pure a : ExceptT Failure (Behaviour ε) α) :=
  ⟨[], .ok a, run_pure.2 ⟨rfl, rfl⟩⟩

theorem Ends.throw (f : Failure) : Ends (throw f : ExceptT Failure (Behaviour ε) α) :=
  ⟨[], .error f, run_throw.2 ⟨rfl, rfl⟩⟩

theorem Ends.lift {x : Behaviour ε α} (h : ∃ t a, x t a) :
    Ends (liftM x : ExceptT Failure (Behaviour ε) α) := by
  obtain ⟨t, a, hx⟩ := h
  exact ⟨t, .ok a, run_lift.2 ⟨a, hx, rfl⟩⟩

theorem Ends.check_bind {p : Prop} [Decidable p] {e : Failure}
    {f : Unit → ExceptT Failure (Behaviour ε) α} (hf : Ends (f ())) :
    Ends (if p then (MonadExcept.throw e >>= f) else f ()) := by
  by_cases hp : p
  · exact ⟨[], .error e, run_check_bind.2 (.inl ⟨hp, rfl, rfl⟩)⟩
  · obtain ⟨t, r, hr⟩ := hf
    exact ⟨t, r, run_check_bind.2 (.inr ⟨hp, hr⟩)⟩

theorem Ends.bind {x : ExceptT Failure (Behaviour ε) α}
    {f : α → ExceptT Failure (Behaviour ε) β} (hx : Ends x) (hf : ∀ a, Ends (f a)) :
    Ends (x >>= f) := by
  obtain ⟨t₁, r, hr⟩ := hx
  cases r with
  | error e => exact ⟨t₁, .error e, run_bind.2 (.inr ⟨e, hr, rfl⟩)⟩
  | ok a =>
    obtain ⟨t₂, r, hrest⟩ := hf a
    exact ⟨t₁ ++ t₂, r, run_bind.2 (.inl ⟨t₁, a, t₂, hr, hrest, rfl⟩)⟩

/-! ## Kinds of events -/

/-- All events of all runs are of the kind `P`. -/
def Leaves (P : ε → Prop) (x : ExceptT Failure (Behaviour ε) α) : Prop :=
  ∀ ⦃t r⦄, Run x t r → ∀ e ∈ t, P e

section
variable {P : ε → Prop}

theorem Leaves.pure (a : α) : Leaves P (pure a : ExceptT Failure (Behaviour ε) α) := by
  intro t r hr
  obtain ⟨rfl, -⟩ := run_pure.1 hr
  simp

theorem Leaves.throw (f : Failure) : Leaves P (throw f : ExceptT Failure (Behaviour ε) α) := by
  intro t r hr
  obtain ⟨rfl, -⟩ := run_throw.1 hr
  simp

theorem Leaves.lift {x : Behaviour ε α} (h : ∀ t a, x t a → ∀ e ∈ t, P e) :
    Leaves P (liftM x : ExceptT Failure (Behaviour ε) α) := by
  intro t r hr
  obtain ⟨a, hx, -⟩ := run_lift.1 hr
  exact h t a hx

theorem Leaves.answered {event : α → ε} (h : ∀ a, P (event a)) :
    Leaves P (liftM (answered event) : ExceptT Failure (Behaviour ε) α) := by
  refine .lift ?_
  rintro _ a rfl
  simpa using h a

theorem Leaves.check_bind {p : Prop} [Decidable p] {e : Failure}
    {f : Unit → ExceptT Failure (Behaviour ε) α} (hf : Leaves P (f ())) :
    Leaves P (if p then (MonadExcept.throw e >>= f) else f ()) := by
  intro t r hr
  rcases run_check_bind.1 hr with ⟨-, rfl, -⟩ | ⟨-, hr⟩
  · simp
  · exact hf hr

theorem Leaves.bind {x : ExceptT Failure (Behaviour ε) α}
    {f : α → ExceptT Failure (Behaviour ε) β} (hx : Leaves P x) (hf : ∀ a, Leaves P (f a)) :
    Leaves P (x >>= f) := by
  intro t r hr e he
  rcases run_bind.1 hr with ⟨t₁, a, t₂, h₁, h₂, rfl⟩ | ⟨_, h₁, -⟩
  · rcases List.mem_append.1 he with he | he
    · exact hx h₁ e he
    · exact hf a h₂ e he
  · exact hx h₁ e he

end

/-! ## Failures and the events that show them -/

/-- What stands in front and shows nothing does not count. -/
theorem exists_append_iff {Q : ε → Prop} {t₁ t₂ : List ε} (h : ¬ ∃ e ∈ t₁, Q e) :
    (∃ e ∈ t₁ ++ t₂, Q e) ↔ ∃ e ∈ t₂, Q e := by
  simp only [List.mem_append, or_and_right, exists_or, h, false_or]

/-- Every failure of the kind `F` is shown by an event of the kind `Q`, unless it is one of the
silent ones `S`; and such an event never goes without such a failure. -/
def FailsBy (F S : Failure → Prop) (Q : ε → Prop) (x : ExceptT Failure (Behaviour ε) α) : Prop :=
  ∀ ⦃t r⦄, Run x t r →
    ((∃ f, r = .error f ∧ F f) ↔ (∃ e ∈ t, Q e) ∨ ∃ f, r = .error f ∧ F f ∧ S f)

section
variable {F S : Failure → Prop} {Q : ε → Prop}

theorem FailsBy.throw {f : Failure} (h : F f → S f) :
    FailsBy F S Q (throw f : ExceptT Failure (Behaviour ε) α) := by
  intro t r hr
  obtain ⟨rfl, rfl⟩ := run_throw.1 hr
  simpa using h

theorem FailsBy.pure (a : α) : FailsBy F S Q (pure a : ExceptT Failure (Behaviour ε) α) := by
  intro t r hr
  obtain ⟨rfl, rfl⟩ := run_pure.1 hr
  simp

theorem FailsBy.answered {event : α → ε} (h : ∀ a, ¬ Q (event a)) :
    FailsBy F S Q (liftM (answered event) : ExceptT Failure (Behaviour ε) α) := by
  intro t r hr
  obtain ⟨a, rfl, rfl⟩ := run_lift.1 hr
  simpa using h a

theorem FailsBy.bind {x : ExceptT Failure (Behaviour ε) α}
    {f : α → ExceptT Failure (Behaviour ε) β} (hx : FailsBy F S Q x)
    (hf : ∀ a, FailsBy F S Q (f a)) : FailsBy F S Q (x >>= f) := by
  intro t r hr
  rcases run_bind.1 hr with ⟨t₁, a, t₂, h₁, h₂, rfl⟩ | ⟨e, h₁, rfl⟩
  · -- the first part did not fail, so nothing in its trace shows a failure
    have hq : ¬ ∃ e ∈ t₁, Q e := by simpa using hx h₁
    rw [hf a h₂, exists_append_iff hq]
  · simpa using hx h₁

end

end Behaviour

/-! ## The machine -/

/-- What a machine was asked for, and what it answered. -/
inductive Host.Event (τ : Type) where
  | read (time : τ)
  | slept (delay : τ)
  | drew (u : τ)
  | logged (line : Log.Line)
  | told (context : Option Log.Context)
  | acquired
  | released

/-- A machine that may answer anything. Whether a run may end because a loop has used up its rounds
is up to `cut`. -/
def Host.answering {ε τ : Type} (cut : Prop) (event : Host.Event τ → ε) : Host (Behaviour ε) τ where
  now := .answered fun time => event (.read time)
  sleep delay := .answered fun _ => event (.slept delay)
  draw := .answered fun u => event (.drew u)
  log line := .answered fun _ => event (.logged line)
  setContext context := .answered fun _ => event (.told context)
  acquire := .answered fun _ => event .acquired
  release := .answered fun _ => event .released
  exhausted := fun t f => cut ∧ t = [] ∧ f = .of .outOfRounds

/-- A machine on which each loop has the rounds that it needs: its runs are those that end by
themselves. -/
abbrev Host.free {ε τ : Type} (event : Host.Event τ → ε) : Host (Behaviour ε) τ :=
  answering False event

/-- Nothing happened but on the machine. -/
def Host.Only {ε τ : Type} (event : Host.Event τ → ε) (t : List ε) : Prop :=
  ∀ e ∈ t, ∃ h, e = event h

namespace Host.Only

variable {ε τ : Type} {event : Host.Event τ → ε} {t : List ε}

theorem nil : Only event [] := by simp [Only]

theorem cons {h : Host.Event τ} (ht : Only event t) : Only event (event h :: t) := by
  intro e he
  rcases List.mem_cons.1 he with rfl | he
  · exact ⟨h, rfl⟩
  · exact ht e he

theorem forall_mem {P : ε → Prop} (ht : Only event t) (hhost : ∀ h, P (event h)) : ∀ e ∈ t, P e := by
  intro e he
  obtain ⟨h, rfl⟩ := ht e he
  exact hhost h

end Host.Only
end StorageAgent
