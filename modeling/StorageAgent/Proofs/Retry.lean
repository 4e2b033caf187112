import StorageAgent.Proofs.Backoff.Tries

/-!
# What a retried call leaves behind

`Backoff.retry` runs an operation again after a transport error. However often it
does so, a run has one of three ends (`Retried`): the attempts are used up, a
delay cannot be computed, or one attempt ends in something other than a transport
error, and that is the result. `Tried.retried` shows it by induction on the tries.
-/
namespace StorageAgent

open Behaviour

/-- Whether a failure is a transport error, which may pass by itself. -/
def Failure.isTransport : Failure → Bool
  | client (.transport _) => true
  | _ => false

theorem Failure.isTransport_eq_false {f : Failure} (h : ∀ fault, f ≠ client (.transport fault)) :
    f.isTransport = false := by
  cases f with
  | fault kind message => rfl
  | client error =>
    cases error with
    | transport fault => exact absurd rfl (h fault)
    | _ => rfl

namespace Backoff

variable {ε τ α : Type} [Seconds τ]

/-- How a call that is tried up to `total` times ends. Every attempt but the deciding one ended in a
transport error and left events of the kind `G` only. -/
inductive Retried (b : Backoff τ) (total : Nat) (G : ε → Prop)
    (operation : ExceptT Failure (Behaviour ε) α) : List ε → Except Failure α → Prop where
  | exhausted {t : List ε} {fault : TransportFault} (ht : ∀ e ∈ t, G e) :
      Retried b total G operation t (.error (.client (.transport fault)))
  | undelayed {t : List ε} {n : Nat} {kind : FaultKind} (ht : ∀ e ∈ t, G e) (hn : n + 1 < total)
      (hd : b.plainDelay n = .error kind) : Retried b total G operation t (.error (.of kind))
  | answered {t₁ t₂ : List ε} {r : Except Failure α} (ht : ∀ e ∈ t₁, G e)
      (hr : Run operation t₂ r) (hn : ∀ f, r = .error f → f.isTransport = false) :
      Retried b total G operation (t₁ ++ t₂) r

/-- Whatever happened in an attempt that is not the deciding one may stand in front. -/
theorem Retried.append {b : Backoff τ} {total : Nat} {G : ε → Prop}
    {operation : ExceptT Failure (Behaviour ε) α} {t₀ t : List ε} {r : Except Failure α}
    (h₀ : ∀ e ∈ t₀, G e) (h : Retried b total G operation t r) :
    Retried b total G operation (t₀ ++ t) r := by
  cases h with
  | exhausted ht => exact .exhausted (List.forall_mem_append.2 ⟨h₀, ht⟩)
  | undelayed ht hn hd => exact .undelayed (List.forall_mem_append.2 ⟨h₀, ht⟩) hn hd
  | answered ht hr hn =>
    rw [← List.append_assoc]
    exact .answered (List.forall_mem_append.2 ⟨h₀, ht⟩) hr hn

section
variable {event : Host.Event τ → ε} {b : Backoff τ} {description : String}
  {operation : ExceptT Failure (Behaviour ε) α} {G : ε → Prop}

/-- A run taken apart into its tries ends in one of the three ways. -/
theorem Tried.retried (hhost : ∀ h, G (event h))
    (hop : ∀ t fault, Run operation t (.error (.client (.transport fault))) → ∀ e ∈ t, G e)
    {total left n : Nat} {tries : List (Try ε α)} {t : List ε} {r : Except Failure α}
    (h : Tried event b description operation left n tries t r) (htotal : n + left = total) :
    Retried b total G operation t r := by
  induction h with
  | untried => exact .exhausted (List.forall_mem_nil _)
  | @ended _ _ t r hrun =>
    by_cases htransient : Transient r
    · obtain ⟨fault, rfl⟩ := htransient
      exact .exhausted (hop t fault hrun)
    · refine .answered (List.forall_mem_nil _) hrun fun f hf => ?_
      exact Failure.isTransport_eq_false fun fault hfault => htransient ⟨fault, by rw [hf, hfault]⟩
  | @undelayed _ _ t fault _ hrun hleft hd =>
    have hlast : Retried b total G operation [] _ :=
      .undelayed (List.forall_mem_nil _) (by omega) hd
    rw [← List.append_nil t]
    exact hlast.append (hop t fault hrun)
  | @again _ _ _ t₁ _ _ fault _ hrun hleft hpause _ ih =>
    have hlater := (ih (by omega)).append
      (hpause.forall_mem (fun _ => hhost _) (fun _ => hhost _) fun _ => hhost _)
    exact hlater.append (hop t₁ fault hrun)

theorem attempts_run (hhost : ∀ h, G (event h))
    (hop : ∀ t fault, Run operation t (.error (.client (.transport fault))) → ∀ e ∈ t, G e)
    {total : Nat} (left n : Nat) (t : List ε) (r : Except Failure α) (htotal : n + left = total)
    (h : Run (attempts (.free event) b description operation left n) t r) :
    Retried b total G operation t r := by
  obtain ⟨tries, htries⟩ := attempts_iff.1 h
  exact htries.retried hhost hop htotal

/-- Attempts leave what the operation leaves, and what lies between them: chance, a report, and a
delay. -/
theorem attempts_leaves (hdrew : ∀ u, G (event (.drew u)))
    (hlogged : ∀ line, G (event (.logged line))) (hslept : ∀ d, G (event (.slept d)))
    (hop : Leaves G operation) (left n : Nat) :
    Leaves G (attempts (.free event) b description operation left n) := by
  intro t r h
  obtain ⟨tries, htries⟩ := attempts_iff.1 h
  induction htries with
  | untried => exact List.forall_mem_nil _
  | ended hrun => exact hop hrun
  | undelayed hrun => exact hop hrun
  | again hrun _ hpause hlater ih =>
    have hbetween := hpause.forall_mem hdrew hlogged hslept
    exact List.forall_mem_append.2
      ⟨hop hrun, List.forall_mem_append.2 ⟨hbetween, ih hlater.run⟩⟩

/-! ## Building runs -/

theorem attempts_done {left n : Nat} {t : List ε} {r : Except Failure α} (hop : Run operation t r)
    (hr : ∀ f, r = .error f → f.isTransport = false) :
    Run (attempts (.free event) b description operation (left + 1) n) t r := by
  refine Tried.run (.ended hop fun htransient => ?_)
  obtain ⟨fault, hfault⟩ := htransient
  cases hr _ hfault

theorem attempts_again (left n : Nat) {t₁ t₂ : List ε} {r : Except Failure α}
    {fault : TransportFault} {d : τ} (hop : Run operation t₁ (.error (.client (.transport fault))))
    (hd : b.plainDelay n = .ok d) (hj : b.jitter = true)
    (hrest : Run (attempts (.free event) b description operation (left + 1) (n + 1)) t₂ r) :
    ∃ s, Host.Only event s ∧
      Run (attempts (.free event) b description operation (left + 2) n) (t₁ ++ (s ++ t₂)) r := by
  obtain ⟨tries, htries⟩ := attempts_iff.1 hrest
  have hpause : Paused event b description n fault _ := .moved d hd hj
  exact ⟨_, Host.Only.nil.cons.cons.cons, (htries.again hop (Nat.succ_ne_zero left) hpause).run⟩

end

end Backoff
end StorageAgent
