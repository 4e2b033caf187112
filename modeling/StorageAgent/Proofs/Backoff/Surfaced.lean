import StorageAgent.Proofs.Backoff.Tries
import StorageAgent.Proofs.Seconds

/-!
# Does a retried call surface the operation's own result?

An operation may end in any way, each time it is run. What a retried call makes of that should be
one of the operation's own results: the first that is no transport error or, if all allowed tries
end in one, the last. In between it computes delays, and a delay may be too large to be computed.

* `surfaces_iff`: a call surfaces the operation's result exactly if every delay that it needs can be
  computed.
* `overflow_surfaced`: after 1025 tries the next delay is past the greatest double, although the cap
  on delays is ten seconds, and the overflow is what the call ends with.
-/
namespace StorageAgent.Backoff

open Behaviour

/-- What happens between a retried call and the world. -/
inductive Event (τ α : Type) where
  | host (event : Host.Event τ)
  /-- The operation was run, and ended so. -/
  | ended (result : Except Failure α)

variable {τ α : Type}

/-- An operation that may end in any way. -/
def anything : ExceptT Failure (Behaviour (Event τ α)) α := .mk (.answered .ended)

/-- The results of the operation, in their order. -/
def results (t : List (Event τ α)) : List (Except Failure α) :=
  t.filterMap fun
    | .ended r => some r
    | .host _ => none

/-- The delays that were waited for. -/
def sleeps (t : List (Event τ α)) : List τ :=
  t.filterMap fun
    | .host (.slept d) => some d
    | _ => none

@[simp]
theorem results_append (t₁ t₂ : List (Event τ α)) : results (t₁ ++ t₂) = results t₁ ++ results t₂ :=
  List.filterMap_append

@[simp]
theorem sleeps_append (t₁ t₂ : List (Event τ α)) : sleeps (t₁ ++ t₂) = sleeps t₁ ++ sleeps t₂ :=
  List.filterMap_append

theorem anything_iff {t : List (Event τ α)} {r : Except Failure α} :
    Run anything t r ↔ t = [.ended r] := Iff.rfl

/-- The operation ends as it is told beforehand. -/
def Follows (outcomes : Nat → Except Failure α) (t : List (Event τ α)) : Prop :=
  ∀ n r, (results t)[n]? = some r → r = outcomes n

/-- The call surfaces the operation's own result: the first that is no transport error, after as many
sleeps as there were errors before it, or the last of as many errors as there may be tries. -/
structure Surfaces (b : Backoff τ) (outcomes : Nat → Except Failure α) (t : List (Event τ α))
    (r : Except Failure α) : Prop where
  decided : ∀ n : Nat, n < b.maxAttempts → (∀ k < n, Transient (outcomes k)) →
    ¬ Transient (outcomes n) →
      (results t).length = n + 1 ∧ (sleeps t).length = n ∧ r = outcomes n
  exhausted : ∀ n : Nat, n + 1 = b.maxAttempts → (∀ k ≤ n, Transient (outcomes k)) →
    (results t).length = n + 1 ∧ (sleeps t).length = n ∧ r = outcomes n

/-- The delay behind try `n` is needed: so far there are only transport errors, and there may be
another try. -/
def Needs (b : Backoff τ) (outcomes : Nat → Except Failure α) (n : Nat) : Prop :=
  n + 1 < b.maxAttempts ∧ ∀ k ≤ n, Transient (outcomes k)

variable {b : Backoff τ} {outcomes : Nat → Except Failure α} {t : List (Event τ α)}
  {r : Except Failure α}

/-- Where a needed delay cannot be computed, the call ends too early. -/
theorem not_surfaces_of_undelayed {last : Nat} (hresults : (results t).length = last + 1)
    (hmore : last + 1 < b.maxAttempts) (htransient : ∀ k ≤ last, Transient (outcomes k)) :
    ¬ Surfaces b outcomes t r := by
  intro h
  by_cases hall : ∀ k : Nat, k < b.maxAttempts → Transient (outcomes k)
  · have hmax : ((b.maxAttempts.toNat - 1 : Nat) : Int) + 1 = b.maxAttempts := by omega
    obtain ⟨hlength, -⟩ := h.exhausted (b.maxAttempts.toNat - 1) hmax
      fun k hk => hall k (by omega)
    omega
  · -- the first result that is no transport error comes later than the last one that was waited for
    have hex : ∃ m : Nat, ¬ (m < b.maxAttempts → Transient (outcomes m)) := by
      simpa using hall
    obtain ⟨m, hm, hfirst⟩ : ∃ m : Nat, ¬ (m < b.maxAttempts → Transient (outcomes m)) ∧
        ∀ k < m, ¬ ¬ (k < b.maxAttempts → Transient (outcomes k)) := by
      classical exact ⟨Nat.find hex, Nat.find_spec hex, fun k hk => Nat.find_min hex hk⟩
    obtain ⟨hlt, hn⟩ := Classical.not_imp.1 hm
    have hlater : last < m := by
      by_contra hle
      exact hn (htransient m (by omega))
    obtain ⟨hlength, -⟩ := h.decided m hlt
      (fun k hk => Classical.not_not.1 (hfirst k hk) (by omega)) hn
    omega

variable [Seconds τ] {description : String} {left n : Nat} {tries : List (Try (Event τ α) α)}

/-! ## What a call does with the operation -/

theorem Paused.results_sleeps {fault : TransportFault}
    (h : Paused .host b description n fault t) : results t = [] ∧ (sleeps t).length = 1 := by
  cases h with
  | steady => exact ⟨rfl, rfl⟩
  | moved => exact ⟨rfl, rfl⟩

theorem Tried.results_eq (h : Tried .host b description anything left n tries t r) :
    results t = tries.map Try.result ∧ (left ≠ 0 → (sleeps t).length + 1 = tries.length) := by
  induction h with
  | untried => exact ⟨rfl, fun h => absurd rfl h⟩
  | ended hop =>
    obtain rfl := anything_iff.1 hop
    exact ⟨rfl, fun _ => rfl⟩
  | undelayed hop =>
    obtain rfl := anything_iff.1 hop
    exact ⟨rfl, fun _ => rfl⟩
  | @again left n tries _ _ _ fault r hop hleft hpause _ ih =>
    obtain rfl := anything_iff.1 hop
    obtain ⟨hresults, hsleeps⟩ := ih
    obtain ⟨hnone, hone⟩ := hpause.results_sleeps
    have hlength := hsleeps hleft
    constructor
    · simp only [results_append, hnone, hresults]
      rfl
    · intro _
      have hstart : sleeps [(.ended (.error (.client (.transport fault))) : Event τ α)] = [] := rfl
      simp only [sleeps_append, hstart, List.nil_append, List.length_append, hone,
        List.length_cons]
      omega

/-- What a call does: all its results but the last are transport errors, with a sleep behind each,
and the last one concludes it. -/
theorem Tried.concludes (h : Tried .host b description anything b.maxAttempts.toNat 0 tries t r)
    (hmax : 1 ≤ b.maxAttempts) (hfollows : Follows outcomes t) :
    ∃ last : Nat, (results t).length = last + 1 ∧ (sleeps t).length = last ∧
      last < b.maxAttempts ∧ (∀ k < last, Transient (outcomes k)) ∧
      (∀ k < last, ∃ d, b.plainDelay k = .ok d) ∧
      Concludes b b.maxAttempts.toNat 0 last (outcomes last) r := by
  have hleft : b.maxAttempts.toNat ≠ 0 := by omega
  obtain ⟨hresults, hsleeps⟩ := h.results_eq
  obtain ⟨earlier, last, rfl, hlength, htransient, hdelays, hlast⟩ := h.eq_concat hleft
  have htold : ∀ k a, (earlier ++ [last])[k]? = some a → a.result = outcomes k := by
    intro k a ha
    refine hfollows k a.result ?_
    rw [hresults, List.getElem?_map, ha]
    rfl
  have hend : last.result = outcomes earlier.length := htold _ _ (by simp)
  refine ⟨earlier.length, ?_, ?_, by omega, ?_, ?_, ?_⟩
  · rw [hresults]
    simp
  · have hcount := hsleeps hleft
    simp only [List.length_append, List.length_singleton] at hcount
    omega
  · intro k hk
    have ha : (earlier ++ [last])[k]? = some earlier[k] := by
      rw [List.getElem?_append_left hk, List.getElem?_eq_getElem hk]
    rw [← htold k _ ha]
    exact htransient _ (List.getElem_mem hk)
  · intro k hk
    simpa using hdelays k hk
  · rw [← hend]
    exact hlast

theorem Tried.surfaces_iff_computed
    (h : Tried .host b description anything b.maxAttempts.toNat 0 tries t r)
    (hmax : 1 ≤ b.maxAttempts) (hfollows : Follows outcomes t) :
    Surfaces b outcomes t r ↔
      ∀ n : Nat, Needs b outcomes n → ∃ d, b.plainDelay n = .ok d := by
  obtain ⟨last, hresults, hsleeps, hlt, htransient, hdelays, hlast⟩ := h.concludes hmax hfollows
  constructor
  · intro hsurfaces n ⟨hmore, hbefore⟩
    by_cases hn : n < last
    · exact hdelays n hn
    · have hend : Transient (outcomes last) := hbefore last (by omega)
      obtain ⟨-, hused⟩ | ⟨kind, -, hfewer, -, -⟩ := hlast
      · have hall := hused hend
        omega
      · refine absurd hsurfaces (not_surfaces_of_undelayed hresults (by omega) ?_)
        intro k hk
        exact hbefore k (by omega)
  · intro hcomputed
    obtain ⟨rfl, hused⟩ | ⟨kind, hend, hfewer, hd, -⟩ := hlast
    · constructor
      · intro n hn hbefore hdecided
        have hlastn : last = n := by
          rcases Nat.lt_trichotomy last n with hless | heq | hmore
          · have hall := hused (hbefore last hless)
            omega
          · exact heq
          · exact absurd (htransient n hmore) hdecided
        subst hlastn
        exact ⟨hresults, hsleeps, rfl⟩
      · intro n hn hbefore
        have hlastn : last = n := by
          have hall := hused (hbefore last (by omega))
          omega
        subst hlastn
        exact ⟨hresults, hsleeps, rfl⟩
    · -- a delay that cannot be computed was needed
      have hneeds : Needs b outcomes last := by
        refine ⟨by omega, fun k hk => ?_⟩
        rcases Nat.lt_or_eq_of_le hk with hk | rfl
        · exact htransient k hk
        · exact hend
      obtain ⟨d, hok⟩ := hcomputed last hneeds
      rw [Nat.zero_add] at hd
      rw [hd] at hok
      cases hok

/-! ## Calls that are told beforehand -/

/-- Whatever the operation is told to end in, there is a call that goes so. -/
theorem exists_retry (b : Backoff τ) (description : String) (outcomes : Nat → Except Failure α) :
    ∃ tries t r, Tried (α := α) .host b description anything b.maxAttempts.toNat 0 tries t r ∧
      Follows outcomes t := by
  obtain ⟨made, t, r, htries⟩ := exists_tried b description
    (fun n => (⟨[.ended (outcomes n)], outcomes n⟩ : Try (Event τ α) α)) (fun _ => anything_iff.2 rfl)
    b.maxAttempts.toNat 0
  refine ⟨_, t, r, htries, ?_⟩
  intro n result hresult
  rw [htries.results_eq.1, List.map_map, List.getElem?_map] at hresult
  obtain ⟨k, hk, rfl⟩ := Option.map_eq_some_iff.1 hresult
  obtain ⟨_, rfl⟩ := List.getElem?_eq_some_iff.1 hk
  simp

/-! ## Which calls surface the operation's result -/

/-- A call surfaces the operation's own result exactly if every delay that it needs can be
computed. -/
theorem surfaces_iff (hmax : 1 ≤ b.maxAttempts)
    (hrun : Run (b.retry (.free .host) description anything) t r) (hfollows : Follows outcomes t) :
    Surfaces b outcomes t r ↔
      ∀ n : Nat, Needs b outcomes n → ∃ d, b.plainDelay n = .ok d := by
  obtain ⟨tries, htries⟩ := attempts_iff.1 hrun
  exact htries.surfaces_iff_computed hmax hfollows

/-- No connection can be made. -/
def unreachable : Except Failure Unit :=
  .error (.client (.transport (.unreachable "getBlockHeight" "ConnectError" "refused")))

/-- No connection can be made the first time, and then one can. -/
def reachedSecond : Nat → Except Failure Unit
  | 0 => unreachable
  | _ + 1 => .ok ()

/-- A call that reaches the endpoint in its second try surfaces that. -/
theorem surfaces_second : ∃ t r,
    Run ((standard (τ := Float)).retry (.free .host) "getBlockHeight" anything) t r ∧
      Follows reachedSecond t ∧ Surfaces (standard (τ := Float)) reachedSecond t r := by
  obtain ⟨tries, t, r, htries, hfollows⟩ :=
    exists_retry (standard (τ := Float)) "getBlockHeight" reachedSecond
  refine ⟨t, r, htries.run, hfollows, (surfaces_iff (by decide) htries.run hfollows).2 ?_⟩
  intro n hn
  have hfew : (n : Int) + 1 < 3 := hn.1
  exact (plainDelay_isOk_iff rfl).2 (by omega)

/-- Retries as ever, 1026 tries in all. -/
def patient : Backoff Float := { standard with maxAttempts := 1026 }

/-- As long as no connection can be made, the 1026 tries are not made: the delay behind the 1025th
cannot be computed, and that is what the call ends with. -/
theorem overflow_surfaced : ∃ t,
    Run (patient.retry (.free .host) "getBlockHeight" anything) t (.error (.of .overflow)) ∧
      Follows (fun _ => unreachable) t ∧ (results t).length = 1025 ∧
      ¬ Surfaces patient (fun _ => unreachable) t (.error (.of .overflow)) := by
  obtain ⟨tries, t, r, htries, hfollows⟩ :=
    exists_retry patient "getBlockHeight" fun _ => unreachable
  have hmax : patient.maxAttempts = 1026 := rfl
  have htransient : Transient unreachable := ⟨_, rfl⟩
  obtain ⟨last, hresults, -, hlt, -, hdelays, hlast⟩ := htries.concludes (by decide) hfollows
  -- the delays up to the last try could be computed, so there are at most 1024 of them
  have hfew : last ≤ 1024 := by
    by_contra hmore
    have hok := (plainDelay_isOk_iff (b := patient) rfl).1 (hdelays 1024 (by omega))
    omega
  obtain ⟨-, hused⟩ | ⟨kind, -, -, hd, rfl⟩ := hlast
  · have hall := hused htransient
    rw [hmax] at hall
    omega
  · rw [Nat.zero_add] at hd
    have hmany : 1024 ≤ last := by
      by_contra hless
      obtain ⟨d, hok⟩ := (plainDelay_isOk_iff (b := patient) rfl).2 (by omega : last < 1024)
      rw [hok] at hd
      cases hd
    obtain rfl : last = 1024 := by omega
    rw [plainDelay_overflow rfl (by decide)] at hd
    cases hd
    refine ⟨t, htries.run, hfollows, hresults, ?_⟩
    exact not_surfaces_of_undelayed hresults (by rw [hmax]; decide) fun _ _ => htransient

end StorageAgent.Backoff
