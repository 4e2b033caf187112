import StorageAgent.Confirmation
import StorageAgent.Proofs.Behaviour

/-!
# The rounds of polling

A run of `Confirmation.pollFrom` is a sequence of rounds. In each, the clock is read, a poll is made,
the clock is read again, and there is a pause until the next. `Rounds` takes a run apart in this way.

* `pollFrom_iff`: the runs of the loop are exactly these sequences.
* `pollFrom_mono`: the runs that end by themselves do not depend on how many rounds there are.
* `Rounds.undecided_or_last`: at most the last poll decides anything.
-/
namespace StorageAgent.Confirmation

open Behaviour

variable {ε τ : Type} [Seconds τ]

/-- A poll: the time when it began, what happened in it, and what it came to. -/
structure Poll (ε τ : Type) where
  begun : τ
  trace : List ε
  result : Except Failure (Option Outcome)

/-- The time left at `now`, if polling began at `start`. -/
def remaining (polling : Polling τ) (start now : τ) : τ :=
  Seconds.sub polling.timeout (Seconds.sub now start)

/-- Another poll may begin at `now`. -/
def InTime (polling : Polling τ) (start now : τ) : Prop :=
  Seconds.lt (Seconds.sub now start) polling.timeout = true

/-- At `now` there is no use in another pause. -/
def Over (polling : Polling τ) (start now : τ) : Prop :=
  Seconds.le (remaining polling start now) Seconds.zero = true

/-- What is known of a transaction whose time is up. -/
def undecided (signature : Json) : Outcome :=
  { signature, verdict := .unknown, errorText := some "Transaction confirmation timed out" }

/-- The report that the time is up. -/
def gaveUp (event : Host.Event τ → ε) (polling : Polling τ) (signature : Json) : ε :=
  event (.logged (line .warning
    s!"Transaction {signature.display} not confirmed after {Seconds.fixed 0 polling.timeout}s"))

/-- The rounds of polling that began at `start`, so many of which are left, with their polls and what
the last of them comes to. Where `cut` holds they may also be used up. -/
inductive Rounds (cut : Prop) (event : Host.Event τ → ε) (ledger : Ledger (Behaviour ε))
    (commitment : Commitment) (polling : Polling τ) (signature limit : Json) (start : τ) :
    Nat → τ → List (Poll ε τ) → List ε → Except Failure Outcome → Prop where
  | exhausted {interval : τ} (hcut : cut) :
      Rounds cut event ledger commitment polling signature limit start 0 interval [] []
        (.error (.of .outOfRounds))
  | late {rounds : Nat} {interval now : τ} (hlate : ¬ InTime polling start now) :
      Rounds cut event ledger commitment polling signature limit start (rounds + 1) interval []
        [event (.read now), gaveUp event polling signature] (.ok (undecided signature))
  | decided {rounds : Nat} {interval now : τ} {t : List ε} {r : Except Failure Outcome}
      (htime : InTime polling start now)
      (hpoll : Run (poll (.free event) ledger commitment signature limit) t (r.map some)) :
      Rounds cut event ledger commitment polling signature limit start (rounds + 1) interval
        [⟨now, t, r.map some⟩] (event (.read now) :: t) r
  | ended {rounds : Nat} {interval now later : τ} {t : List ε} (htime : InTime polling start now)
      (hpoll : Run (poll (.free event) ledger commitment signature limit) t (.ok none))
      (hover : Over polling start later) :
      Rounds cut event ledger commitment polling signature limit start (rounds + 1) interval
        [⟨now, t, .ok none⟩]
        (event (.read now) :: (t ++ [event (.read later), gaveUp event polling signature]))
        (.ok (undecided signature))
  | again {rounds : Nat} {interval now later : τ} {polls : List (Poll ε τ)} {t t' : List ε}
      {r : Except Failure Outcome} (htime : InTime polling start now)
      (hpoll : Run (poll (.free event) ledger commitment signature limit) t (.ok none))
      (hover : ¬ Over polling start later)
      (hrest : Rounds cut event ledger commitment polling signature limit start rounds
        (polling.grow interval) polls t' r) :
      Rounds cut event ledger commitment polling signature limit start (rounds + 1) interval
        (⟨now, t, .ok none⟩ :: polls)
        (event (.read now) :: (t ++ event (.read later) ::
          event (.slept (Seconds.least interval (remaining polling start later))) :: t')) r

variable {cut : Prop} {event : Host.Event τ → ε} {ledger : Ledger (Behaviour ε)}
  {commitment : Commitment} {polling : Polling τ} {signature limit : Json} {start : τ}

theorem timedOut_iff {t : List ε} {r : Except Failure Outcome} :
    Run (timedOut (.answering cut event) polling signature) t r ↔
      t = [gaveUp event polling signature] ∧ r = .ok (undecided signature) := by
  constructor
  · intro h
    obtain ⟨_, -, _, rfl, hpure, rfl⟩ := run_lift_bind.1 h
    obtain ⟨rfl, rfl⟩ := run_pure.1 hpure
    exact ⟨rfl, rfl⟩
  · intro h
    obtain ⟨rfl, rfl⟩ := h
    exact run_lift_bind.2 ⟨[_], (), [], rfl, run_pure.2 ⟨rfl, rfl⟩, rfl⟩

theorem exists_rounds_of_run : ∀ (rounds : Nat) (interval : τ) {t : List ε}
    {r : Except Failure Outcome},
    Run (pollFrom (.answering cut event) ledger commitment polling signature limit start rounds
      interval) t r → ∃ polls, Rounds cut event ledger commitment polling signature limit start rounds
        interval polls t r := by
  intro rounds
  induction rounds with
  | zero =>
    intro interval t r h
    obtain ⟨_, _, _, ⟨hcut, rfl, rfl⟩, hthrow, rfl⟩ := run_lift_bind.1 h
    obtain ⟨rfl, rfl⟩ := run_throw.1 hthrow
    exact ⟨[], .exhausted hcut⟩
  | succ rounds ih =>
    intro interval t r h
    rw [pollFrom] at h
    obtain ⟨_, now, t₁, rfl, hround, rfl⟩ := run_lift_bind.1 h
    by_cases htime : InTime polling start now
    · rw [htime, if_neg (by decide)] at hround
      obtain ⟨t₂, answer, _, hpoll, hnext, rfl⟩ | ⟨f, hpoll, rfl⟩ := run_bind.1 hround
      · cases answer with
        | some o =>
          obtain ⟨rfl, rfl⟩ := run_pure.1 hnext
          rw [List.append_nil]
          exact ⟨_, .decided htime hpoll⟩
        | none =>
          obtain ⟨_, later, t₃, rfl, hpause, rfl⟩ := run_lift_bind.1 hnext
          dsimp only at hpause
          split at hpause
          · next hover =>
            obtain ⟨rfl, rfl⟩ := timedOut_iff.1 hpause
            exact ⟨_, .ended htime hpoll hover⟩
          · next hover =>
            obtain ⟨_, -, t₄, rfl, hrest, rfl⟩ := run_lift_bind.1 hpause
            obtain ⟨polls, hpolls⟩ := ih _ hrest
            exact ⟨_, .again htime hpoll hover hpolls⟩
      · exact ⟨_, .decided htime hpoll⟩
    · rw [if_pos (by simpa [InTime] using htime)] at hround
      obtain ⟨rfl, rfl⟩ := timedOut_iff.1 hround
      exact ⟨[], .late htime⟩

theorem Rounds.run {rounds : Nat} {interval : τ} {polls : List (Poll ε τ)} {t : List ε}
    {r : Except Failure Outcome}
    (h : Rounds cut event ledger commitment polling signature limit start rounds interval polls t r) :
    Run (pollFrom (.answering cut event) ledger commitment polling signature limit start rounds
      interval) t r := by
  induction h with
  | exhausted hcut =>
    exact run_lift_bind.2 ⟨[], _, [], ⟨hcut, rfl, rfl⟩, run_throw.2 ⟨rfl, rfl⟩, rfl⟩
  | @late _ _ now hlate =>
    refine run_lift_bind.2 ⟨[_], now, _, rfl, ?_, rfl⟩
    rw [if_pos (by simpa [InTime] using hlate)]
    exact timedOut_iff.2 ⟨rfl, rfl⟩
  | @decided _ _ now t r htime hpoll =>
    refine run_lift_bind.2 ⟨[_], now, t, rfl, ?_, rfl⟩
    rw [htime, if_neg (by decide)]
    cases r with
    | error f => exact run_bind.2 (.inr ⟨f, hpoll, rfl⟩)
    | ok o => exact run_bind.2 (.inl ⟨t, some o, [], hpoll, run_pure.2 ⟨rfl, rfl⟩, by simp⟩)
  | @ended _ _ now later t htime hpoll hover =>
    refine run_lift_bind.2 ⟨[_], now, _, rfl, ?_, rfl⟩
    rw [htime, if_neg (by decide)]
    refine run_bind.2 (.inl ⟨t, none, _, hpoll, ?_, rfl⟩)
    refine run_lift_bind.2 ⟨[_], later, _, rfl, ?_, rfl⟩
    dsimp only
    rw [if_pos (show Seconds.le (Seconds.sub polling.timeout _) Seconds.zero = true from hover)]
    exact timedOut_iff.2 ⟨rfl, rfl⟩
  | @again _ _ now later _ t t' _ htime hpoll hover _ ih =>
    refine run_lift_bind.2 ⟨[_], now, _, rfl, ?_, rfl⟩
    rw [htime, if_neg (by decide)]
    refine run_bind.2 (.inl ⟨t, none, _, hpoll, ?_, rfl⟩)
    refine run_lift_bind.2 ⟨[_], later, _, rfl, ?_, rfl⟩
    dsimp only
    rw [if_neg (show ¬ Seconds.le (Seconds.sub polling.timeout _) Seconds.zero = true from hover)]
    exact run_lift_bind.2 ⟨[_], (), t', rfl, ih, rfl⟩

/-- The runs of polling are its sequences of rounds. -/
theorem pollFrom_iff {rounds : Nat} {interval : τ} {t : List ε} {r : Except Failure Outcome} :
    Run (pollFrom (.answering cut event) ledger commitment polling signature limit start rounds
        interval) t r ↔
      ∃ polls, Rounds cut event ledger commitment polling signature limit start rounds interval polls
        t r :=
  ⟨exists_rounds_of_run rounds interval, fun ⟨_, h⟩ => h.run⟩

theorem await_iff {t : List ε} {r : Except Failure Outcome} :
    Run (await (.answering cut event) ledger commitment polling signature limit) t r ↔
      ∃ start polls t', t = event (.read start) :: t' ∧
        Rounds cut event ledger commitment polling signature limit start polling.rounds
          polling.interval polls t' r := by
  constructor
  · intro h
    obtain ⟨_, start, t', rfl, hpolls, rfl⟩ := run_lift_bind.1 h
    obtain ⟨polls, hpolls⟩ := pollFrom_iff.1 hpolls
    exact ⟨start, polls, t', rfl, hpolls⟩
  · intro h
    obtain ⟨start, polls, t', rfl, hpolls⟩ := h
    exact run_lift_bind.2 ⟨[_], start, t', rfl, hpolls.run, rfl⟩

section
variable {rounds : Nat} {interval : τ} {polls : List (Poll ε τ)} {t : List ε}
  {r : Except Failure Outcome}

/-- Each poll is a run of its own. -/
theorem Rounds.forall_run
    (h : Rounds cut event ledger commitment polling signature limit start rounds interval polls t r) :
    ∀ p ∈ polls, Run (poll (.free event) ledger commitment signature limit) p.trace p.result := by
  induction h with
  | exhausted => simp
  | late => simp
  | decided _ hpoll => simpa using hpoll
  | ended _ hpoll => simpa using hpoll
  | again _ hpoll _ _ ih => exact List.forall_mem_cons.2 ⟨hpoll, ih⟩

omit [Seconds τ] in
/-- A round is an event, a poll, two events more, and then what is later. -/
theorem suffix_round (e e₁ e₂ : ε) (t t' : List ε) : t' <:+ e :: (t ++ e₁ :: e₂ :: t') := by
  have hpause : t' <:+ e₁ :: e₂ :: t' := (List.suffix_cons _ _).trans (List.suffix_cons _ _)
  exact hpause.trans ((List.suffix_append t _).trans (List.suffix_cons _ _))

/-- No poll begins after the time is up, and the clock is read right before it begins. -/
theorem Rounds.forall_begun
    (h : Rounds cut event ledger commitment polling signature limit start rounds interval polls t r) :
    ∀ p ∈ polls, InTime polling start p.begun ∧ (event (.read p.begun) :: p.trace) <:+: t := by
  induction h with
  | exhausted => simp
  | late => simp
  | decided htime => simpa using htime
  | @ended _ _ now later t htime =>
    simp only [List.mem_singleton, forall_eq]
    exact ⟨htime, (List.prefix_append (event (.read now) :: t) _).isInfix⟩
  | @again _ _ now later polls t t' _ htime _ _ _ ih =>
    refine List.forall_mem_cons.2 ⟨⟨htime, ?_⟩, ?_⟩
    · exact (List.prefix_append (event (.read now) :: t) _).isInfix
    · intro p hp
      obtain ⟨hbegun, hinside⟩ := ih p hp
      exact ⟨hbegun, hinside.trans (suffix_round _ _ _ _ _).isInfix⟩

/-- A run that does not end for want of rounds ends by itself, and more rounds change nothing about
it. -/
theorem Rounds.free {more : Nat}
    (h : Rounds cut event ledger commitment polling signature limit start rounds interval polls t r)
    (hr : cut → r ≠ .error (.of .outOfRounds)) (hmore : rounds ≤ more) :
    Rounds False event ledger commitment polling signature limit start more interval polls t r := by
  induction h generalizing more with
  | exhausted hcut => exact absurd rfl (hr hcut)
  | late hlate =>
    obtain ⟨more, rfl⟩ := Nat.exists_eq_add_of_le' hmore
    exact .late hlate
  | decided htime hpoll =>
    obtain ⟨more, rfl⟩ := Nat.exists_eq_add_of_le' hmore
    exact .decided htime hpoll
  | ended htime hpoll hover =>
    obtain ⟨more, rfl⟩ := Nat.exists_eq_add_of_le' hmore
    exact .ended htime hpoll hover
  | again htime hpoll hover _ ih =>
    obtain ⟨more, rfl⟩ := Nat.exists_eq_add_of_le' hmore
    exact .again htime hpoll hover (ih hr (Nat.le_add_left _ _))

/-- The runs that end by themselves are the same whatever rounds are added. -/
theorem pollFrom_mono {more : Nat}
    (h : Run (pollFrom (.free event) ledger commitment polling signature limit start rounds interval)
      t r) (hmore : rounds ≤ more) :
    Run (pollFrom (.free event) ledger commitment polling signature limit start more interval) t
      r := by
  obtain ⟨polls, hpolls⟩ := pollFrom_iff.1 h
  exact (hpolls.free False.elim hmore).run

/-- All polls but the last are undecided. Either the last decides how polling ends, or it is
undecided too, and the time is up. -/
theorem Rounds.undecided_or_last
    (h : Rounds False event ledger commitment polling signature limit start rounds interval polls t r) :
    (∃ earlier last, polls = earlier ++ [last] ∧ (∀ p ∈ earlier, p.result = .ok none) ∧
        last.result = r.map some) ∨
      (∀ p ∈ polls, p.result = .ok none) ∧ r = .ok (undecided signature) := by
  induction h with
  | exhausted hcut => exact hcut.elim
  | late => exact .inr ⟨by simp, rfl⟩
  | decided => exact .inl ⟨[], _, rfl, by simp, rfl⟩
  | ended => exact .inr ⟨by simp, rfl⟩
  | again _ _ _ _ ih =>
    obtain ⟨earlier, last, rfl, hearlier, hlast⟩ | ⟨hnone, hend⟩ := ih
    · exact .inl ⟨_ :: earlier, last, rfl, List.forall_mem_cons.2 ⟨rfl, hearlier⟩, hlast⟩
    · exact .inr ⟨List.forall_mem_cons.2 ⟨rfl, hnone⟩, hend⟩

/-- Polling fails only with the failure of its last poll. -/
theorem Rounds.error_cases {f : Failure}
    (h : Rounds False event ledger commitment polling signature limit start rounds interval polls t
      (.error f)) :
    ∃ s, s <:+ t ∧ Run (poll (.free event) ledger commitment signature limit) s (.error f) := by
  generalize hr : Except.error f = r at h
  induction h with
  | exhausted hcut => exact hcut.elim
  | late => cases hr
  | decided _ hpoll =>
    cases hr
    exact ⟨_, List.suffix_cons _ _, hpoll⟩
  | ended => cases hr
  | again _ _ _ _ ih =>
    obtain ⟨s, hs, hpoll⟩ := ih hr
    exact ⟨s, hs.trans (suffix_round _ _ _ _ _), hpoll⟩

/-- What is no event of the machine comes from the polls. -/
theorem Rounds.filterMap_eq {β : Type} {f : ε → Option β} (hf : ∀ e, f (event e) = none)
    (h : Rounds cut event ledger commitment polling signature limit start rounds interval polls t r) :
    t.filterMap f = polls.flatMap fun p => p.trace.filterMap f := by
  induction h with
  | exhausted => rfl
  | late => simp [gaveUp, hf]
  | decided => simp [hf]
  | ended => simp [gaveUp, hf]
  | again _ _ _ _ ih => simp [hf, ih]

end

end StorageAgent.Confirmation
