import StorageAgent.Backoff
import StorageAgent.Proofs.Behaviour

/-!
# The tries of a retried call

A run of `Backoff.retry` is a sequence of tries with pauses in between. `Tried` takes such a run
apart: each try is a run of the operation, every one but the last ended in a transport error, and
behind each of these lies a pause, whose delay could be computed.

* `attempts_iff`: the runs of a retried call are exactly these sequences.
* `Tried.eq_concat`: which try is the last one, and what it tells.
-/
namespace StorageAgent.Backoff

open Behaviour

variable {ε τ α : Type} {event : Host.Event τ → ε}
  {description : String} {operation : ExceptT Failure (Behaviour ε) α}

/-- A result that may be another the next time. -/
def Transient (r : Except Failure α) : Prop := ∃ fault, r = .error (.client (.transport fault))

variable [Seconds τ] {b : Backoff τ}

/-! ## Pauses -/

/-- The report of a failed try, and the delay before the next. -/
def pause (event : Host.Event τ → ε) (b : Backoff τ) (description : String) (n : Nat)
    (fault : TransportFault) (d : τ) : List ε :=
  [event (.logged ⟨.warning, .backoff, b.retryReport description n fault d⟩), event (.slept d)]

/-- What happens between try `n` and the next. Chance is asked only if there is jitter. -/
inductive Paused (event : Host.Event τ → ε) (b : Backoff τ) (description : String) (n : Nat)
    (fault : TransportFault) : List ε → Prop where
  | steady {d : τ} (hd : b.plainDelay n = .ok d) (hj : b.jitter = false) :
      Paused event b description n fault
        (pause event b description n fault (Seconds.atLeastZero d))
  | moved {d : τ} (u : τ) (hd : b.plainDelay n = .ok d) (hj : b.jitter = true) :
      Paused event b description n fault
        (event (.drew u) ::
          pause event b description n fault (Seconds.atLeastZero (b.jittered d u)))

theorem Paused.computed {n : Nat} {fault : TransportFault} {t : List ε}
    (h : Paused event b description n fault t) : ∃ d, b.plainDelay n = .ok d := by
  cases h with
  | steady hd => exact ⟨_, hd⟩
  | moved u hd => exact ⟨_, hd⟩

theorem Paused.forall_mem {G : ε → Prop} (hdrew : ∀ u, G (event (.drew u)))
    (hlogged : ∀ line, G (event (.logged line))) (hslept : ∀ d, G (event (.slept d))) {n : Nat}
    {fault : TransportFault} {t : List ε} (h : Paused event b description n fault t) :
    ∀ e ∈ t, G e := by
  cases h with
  | steady => simp [pause, hlogged, hslept]
  | moved => simp [pause, hdrew, hlogged, hslept]

theorem Paused.filterMap_eq_nil {β : Type} {f : ε → Option β} (hf : ∀ e, f (event e) = none)
    {n : Nat} {fault : TransportFault} {t : List ε} (h : Paused event b description n fault t) :
    t.filterMap f = [] := by
  cases h with
  | steady => simp [pause, hf]
  | moved => simp [pause, hf]

/-- A delay that can be computed is waited for. -/
theorem exists_paused {n : Nat} {d : τ} (hd : b.plainDelay n = .ok d) (fault : TransportFault) :
    ∃ t : List ε, Paused event b description n fault t := by
  cases hj : b.jitter with
  | false => exact ⟨_, .steady hd hj⟩
  | true => exact ⟨_, .moved Seconds.zero hd hj⟩

theorem delay_iff {n : Int} {t : List ε} {r : Except Failure τ} :
    Run (b.delay (.free event) n) t r ↔
      (∃ kind, b.plainDelay n = .error kind ∧ t = [] ∧ r = .error (.of kind)) ∨
        ∃ d, b.plainDelay n = .ok d ∧
          (b.jitter = false ∧ t = [] ∧ r = .ok (Seconds.atLeastZero d) ∨
            b.jitter = true ∧ ∃ u, t = [event (.drew u)] ∧
              r = .ok (Seconds.atLeastZero (b.jittered d u))) := by
  unfold delay
  cases hd : b.plainDelay n with
  | error kind => simp [run_throw]
  | ok d =>
    cases hj : b.jitter with
    | false => simp [run_pure]
    | true =>
      dsimp only
      rw [if_pos rfl]
      constructor
      · intro h
        obtain ⟨_, u, _, rfl, hr, rfl⟩ := run_lift_bind.1 h
        obtain ⟨rfl, rfl⟩ := run_pure.1 hr
        exact .inr ⟨d, rfl, .inr ⟨rfl, u, rfl, rfl⟩⟩
      · intro h
        obtain ⟨kind, hk, -⟩ | ⟨d', hd', ⟨hf, -⟩ | ⟨-, u, rfl, rfl⟩⟩ := h
        · cases hk
        · cases hf
        · cases hd'
          exact run_lift_bind.2 ⟨[_], u, [], rfl, run_pure.2 ⟨rfl, rfl⟩, rfl⟩

/-! ## Tries -/

/-- A try: what happened, and how it ended. -/
structure Try (ε α : Type) where
  trace : List ε
  result : Except Failure α

/-- The tries of a call of which `left` are left, the next one having number `n`. -/
inductive Tried (event : Host.Event τ → ε) (b : Backoff τ) (description : String)
    (operation : ExceptT Failure (Behaviour ε) α) :
    Nat → Nat → List (Try ε α) → List ε → Except Failure α → Prop where
  | untried {n : Nat} : Tried event b description operation 0 n [] []
      (.error (.client (.transport (.noAttempt description))))
  | ended {left n : Nat} {t : List ε} {r : Except Failure α} (hop : Run operation t r)
      (hr : Transient r → left = 0) :
      Tried event b description operation (left + 1) n [⟨t, r⟩] t r
  | undelayed {left n : Nat} {t : List ε} {fault : TransportFault} {kind : FaultKind}
      (hop : Run operation t (.error (.client (.transport fault)))) (hleft : left ≠ 0)
      (hd : b.plainDelay n = .error kind) :
      Tried event b description operation (left + 1) n [⟨t, .error (.client (.transport fault))⟩] t
        (.error (.of kind))
  | again {left n : Nat} {tries : List (Try ε α)} {t₁ t₂ t₃ : List ε} {fault : TransportFault}
      {r : Except Failure α} (hop : Run operation t₁ (.error (.client (.transport fault))))
      (hleft : left ≠ 0) (hpause : Paused event b description n fault t₂)
      (hlater : Tried event b description operation left (n + 1) tries t₃ r) :
      Tried event b description operation (left + 1) n
        (⟨t₁, .error (.client (.transport fault))⟩ :: tries) (t₁ ++ (t₂ ++ t₃)) r

theorem exists_tried_of_run : ∀ (left n : Nat) {t : List ε} {r : Except Failure α},
    Run (attempts (.free event) b description operation left n) t r →
      ∃ tries, Tried event b description operation left n tries t r := by
  intro left
  induction left with
  | zero =>
    intro n t r h
    obtain ⟨rfl, rfl⟩ := run_throw.1 h
    exact ⟨[], .untried⟩
  | succ left ih =>
    intro n t r h
    rw [attempts, run_mk, bind_iff] at h
    obtain ⟨t₁, answer, t₂, hop, h, rfl⟩ := h
    split at h
    · next fault =>
      split at h
      · next hleft =>
        obtain ⟨rfl, rfl⟩ := pure_iff.1 h
        rw [List.append_nil]
        exact ⟨_, .ended hop fun _ => hleft⟩
      · next hleft =>
        obtain ⟨s, d, _, hdelay, hreport, rfl⟩ | ⟨f, hdelay, rfl⟩ := run_bind.1 h
        · obtain ⟨_, -, _, rfl, hsleep, rfl⟩ := run_lift_bind.1 hreport
          obtain ⟨_, -, t₃, rfl, hlater, rfl⟩ := run_lift_bind.1 hsleep
          obtain ⟨tries, htries⟩ := ih (n + 1) hlater
          have hpause : Paused event b description n fault
              (s ++ pause event b description n fault d) := by
            obtain ⟨_, -, -, hd⟩ | ⟨d', hd', ⟨hj, rfl, hd⟩ | ⟨hj, u, rfl, hd⟩⟩ :=
              delay_iff.1 hdelay
            · cases hd
            · cases hd
              exact .steady hd' hj
            · cases hd
              exact .moved u hd' hj
          have hagain := Tried.again hop hleft hpause htries
          exact ⟨_, by simpa [pause] using hagain⟩
        · obtain ⟨kind, hk, rfl, hf⟩ | ⟨_, -, ⟨-, -, hd⟩ | ⟨-, _, -, hd⟩⟩ := delay_iff.1 hdelay
          · cases hf
            rw [List.append_nil]
            exact ⟨_, .undelayed hop hleft hk⟩
          · cases hd
          · cases hd
    · next hn =>
      obtain ⟨rfl, rfl⟩ := pure_iff.1 h
      rw [List.append_nil]
      refine ⟨_, .ended hop ?_⟩
      intro htransient
      obtain ⟨fault, hf⟩ := htransient
      exact absurd hf (hn fault)

theorem Tried.run {left n : Nat} {tries : List (Try ε α)} {t : List ε} {r : Except Failure α}
    (h : Tried event b description operation left n tries t r) :
    Run (attempts (.free event) b description operation left n) t r := by
  induction h with
  | untried => exact run_throw.2 ⟨rfl, rfl⟩
  | @ended left n t r hop hr =>
    refine ⟨t, r, [], hop, ?_, by simp⟩
    dsimp only
    split
    · next fault =>
      rw [if_pos (hr ⟨fault, rfl⟩)]
      exact ⟨rfl, rfl⟩
    · exact ⟨rfl, rfl⟩
  | @undelayed left n t fault kind hop hleft hd =>
    refine ⟨t, _, [], hop, ?_, by simp⟩
    dsimp only
    rw [if_neg hleft]
    exact run_bind.2 (.inr ⟨_, delay_iff.2 (.inl ⟨kind, hd, rfl, rfl⟩), rfl⟩)
  | @again left n tries t₁ t₂ t₃ fault r hop hleft hpause _ ih =>
    refine ⟨t₁, _, t₂ ++ t₃, hop, ?_, rfl⟩
    dsimp only
    rw [if_neg hleft]
    have hrest : ∀ d, Run (do
        (liftM ((Host.free event).log ⟨.warning, .backoff, b.retryReport description n fault d⟩) :
          ExceptT Failure (Behaviour ε) Unit)
        liftM ((Host.free event).sleep d)
        attempts (.free event) b description operation left (n + 1))
        (pause event b description n fault d ++ t₃) r := by
      intro d
      refine run_lift_bind.2 ⟨[_], (), _, rfl, ?_, rfl⟩
      exact run_lift_bind.2 ⟨[_], (), t₃, rfl, ih, rfl⟩
    cases hpause with
    | steady hd hj =>
      exact run_bind.2 (.inl ⟨[], _, _, delay_iff.2 (.inr ⟨_, hd, .inl ⟨hj, rfl, rfl⟩⟩), hrest _, rfl⟩)
    | moved u hd hj =>
      exact run_bind.2
        (.inl ⟨[_], _, _, delay_iff.2 (.inr ⟨_, hd, .inr ⟨hj, u, rfl, rfl⟩⟩), hrest _, rfl⟩)

/-- Whatever runs of the operation are given, there is a call that makes the first of them, as many as
it takes. -/
theorem exists_tried (b : Backoff τ) (description : String) (given : Nat → Try ε α)
    (hgiven : ∀ n, Run operation (given n).trace (given n).result) :
    ∀ left n : Nat, ∃ made t r,
      Tried event b description operation left n ((List.range' n made).map given) t r := by
  intro left
  induction left with
  | zero => exact fun n => ⟨0, [], _, .untried⟩
  | succ left ih =>
    intro n
    have hop := hgiven n
    by_cases hagain : Transient (given n).result ∧ left ≠ 0
    · obtain ⟨⟨fault, hfault⟩, hleft⟩ := hagain
      have hgivenn : given n = ⟨(given n).trace, .error (.client (.transport fault))⟩ := by
        rw [← hfault]
      rw [hfault] at hop
      cases hd : b.plainDelay n with
      | error kind =>
        refine ⟨1, (given n).trace, .error (.of kind), ?_⟩
        rw [List.range'_one, List.map_singleton, hgivenn]
        exact .undelayed hop hleft hd
      | ok d =>
        obtain ⟨s, hpause⟩ : ∃ s : List ε, Paused event b description n fault s :=
          exists_paused hd fault
        obtain ⟨made, t, r, hlater⟩ := ih (n + 1)
        refine ⟨made + 1, (given n).trace ++ (s ++ t), r, ?_⟩
        rw [List.range'_succ, List.map_cons, hgivenn]
        exact .again hop hleft hpause hlater
    · refine ⟨1, _, _, .ended hop ?_⟩
      intro htransient
      exact Decidable.byContradiction fun hleft => hagain ⟨htransient, hleft⟩

/-- The runs of a call are its sequences of tries. -/
theorem attempts_iff {left n : Nat} {t : List ε} {r : Except Failure α} :
    Run (attempts (.free event) b description operation left n) t r ↔
      ∃ tries, Tried event b description operation left n tries t r :=
  ⟨exists_tried_of_run left n, fun ⟨_, h⟩ => h.run⟩

section
variable {left n : Nat} {tries : List (Try ε α)} {t : List ε} {r : Except Failure α}

/-- Each try is a run of the operation. -/
theorem Tried.forall_run (h : Tried event b description operation left n tries t r) :
    ∀ a ∈ tries, Run operation a.trace a.result := by
  induction h with
  | untried => simp
  | ended hop => simpa using hop
  | undelayed hop => simpa using hop
  | again hop _ _ _ ih => exact List.forall_mem_cons.2 ⟨hop, ih⟩

/-- What is no event of the machine comes from the tries. -/
theorem Tried.filterMap_eq {β : Type} {f : ε → Option β} (hf : ∀ e, f (event e) = none)
    (h : Tried event b description operation left n tries t r) :
    t.filterMap f = tries.flatMap fun a => a.trace.filterMap f := by
  induction h with
  | untried => rfl
  | ended => simp
  | undelayed => simp
  | again _ _ hpause _ ih =>
    have hnone := hpause.filterMap_eq_nil hf
    simp only [List.filterMap_append, List.flatMap_cons, hnone, ih, List.nil_append]

/-- What the last try means, if `earlier` tries stand before it and `left` were allowed: it is the
result, or there should have been another and the delay before that cannot be computed. -/
def Concludes (b : Backoff τ) (left n earlier : Nat) (last r : Except Failure α) : Prop :=
  (r = last ∧ (Transient last → earlier + 1 = left)) ∨
    ∃ kind, Transient last ∧ earlier + 1 < left ∧ b.plainDelay (n + earlier : Nat) = .error kind ∧
      r = .error (.of kind)

/-- Of all the tries that were made, the last one concludes the call. -/
theorem Tried.eq_concat (h : Tried event b description operation left n tries t r)
    (hleft : left ≠ 0) :
    ∃ earlier last, tries = earlier ++ [last] ∧ earlier.length < left ∧
      (∀ a ∈ earlier, Transient a.result) ∧
      (∀ k < earlier.length, ∃ d, b.plainDelay (n + k : Nat) = .ok d) ∧
      Concludes b left n earlier.length last.result r := by
  induction h with
  | untried => exact absurd rfl hleft
  | @ended left n t r hop hr =>
    refine ⟨[], ⟨t, r⟩, rfl, Nat.succ_pos left, by simp, by simp, .inl ⟨rfl, ?_⟩⟩
    intro htransient
    simp [hr htransient]
  | @undelayed left n t fault kind hop hl hd =>
    refine ⟨[], _, rfl, Nat.succ_pos left, by simp, by simp, .inr ⟨kind, ⟨fault, rfl⟩, ?_, hd, rfl⟩⟩
    simp
    omega
  | @again left n tries t₁ t₂ t₃ fault r hop hl hpause hlater ih =>
    obtain ⟨earlier, last, rfl, hlength, htransient, hdelays, hlast⟩ := ih hl
    refine ⟨⟨t₁, .error (.client (.transport fault))⟩ :: earlier, last, rfl, ?_, ?_, ?_, ?_⟩
    · simpa using hlength
    · exact List.forall_mem_cons.2 ⟨⟨fault, rfl⟩, htransient⟩
    · intro k hk
      cases k with
      | zero => exact hpause.computed
      | succ k =>
        have hshift : n + (k + 1) = n + 1 + k := by omega
        rw [hshift]
        exact hdelays k (by simpa using hk)
    · have hshift : n + (earlier.length + 1) = n + 1 + earlier.length := by omega
      simpa [Concludes, hshift] using hlast

end
end StorageAgent.Backoff
