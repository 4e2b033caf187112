import StorageAgent.Proofs.Confirmation.Deadline

/-!
# A confirmation is noticed

If calls take no time, then the gap between one poll and the next is one pause, which is no longer than
the first interval or the cap. So a transaction that reaches its level while there is time for one such
gap is asked about when it has, and before the gap is over.

* `Instantaneous`: only pauses take time.
* `FitsLanding`: what is answered before a time leaves the transaction open, and what is answered from
  then on confirms it.
* `confirmation_noticed`: polling returns the confirmation in time.
-/
namespace StorageAgent

open Behaviour

/-- Only pauses take time, and just as long as they were to last. -/
structure World.Instantaneous (w : World ℚ) : Prop where
  slept : ∀ h d, w.now (h ++ [.host (.slept d)]) = w.now h + d
  prompt : ∀ h e, Dialogue.Prompt e → w.now (h ++ [e]) = w.now h
  read : ∀ h time, w.now (h ++ [.host (.read time)]) = w.now h

namespace World

variable {w : World ℚ} {h t : Dialogue.History ℚ}

theorem Instantaneous.keepsTime (hi : w.Instantaneous) : w.KeepsTime :=
  ⟨fun h d => (hi.slept h d).ge, fun h e he => (hi.prompt h e he).ge, hi.read⟩

theorem Instantaneous.now_append (hi : w.Instantaneous) (ht : ∀ e ∈ t, Dialogue.Prompt e) :
    w.now (h ++ t) = w.now h := by
  induction t generalizing h with
  | nil => rw [List.append_nil]
  | cons e t ih =>
    obtain ⟨he, ht⟩ := List.forall_mem_cons.1 ht
    rw [List.append_cons, ih ht, hi.prompt h e he]

/-- All that is asked without a pause is asked at one time. -/
theorem Instantaneous.timed (hi : w.Instantaneous) (ht : ∀ e ∈ t, Dialogue.Prompt e) :
    ∀ c ∈ w.timed h t, c.1 = w.now h := by
  induction t generalizing h with
  | nil => exact List.forall_mem_nil _
  | cons e t ih =>
    obtain ⟨he, ht⟩ := List.forall_mem_cons.1 ht
    have hrest := ih (h := h ++ [e]) ht
    rw [hi.prompt h e he] at hrest
    cases e with
    | host e => exact hrest
    | ledger e => exact List.forall_mem_cons.2 ⟨rfl, hrest⟩

theorem instantaneous_timeline (status : ℚ → Option SignatureStatus) :
    (timeline 0 status).Instantaneous := by
  refine ⟨fun h d => ?slept, fun h e he => ?prompt, fun h time => ?read⟩
  case slept => simp [timeline_concat, elapsed]
  case prompt => rw [timeline_concat, or_self_iff.1 (elapsed_of_prompt 0 he), add_zero]
  case read => simp [timeline_concat, elapsed]

end World

namespace Confirmation

variable {commitment : Commitment} {signature limit : Json} {time : ℚ}

/-- What is answered about a transaction that reaches its level at a time. From then on its status says
so, and before that no answer settles anything. -/
def FitsLanding (commitment : Commitment) (limit : Json) (time now : ℚ) : Ledger.Event → Prop
  | .status _ answer =>
    (time ≤ now → Confirms commitment answer) ∧ (now < time → ¬ Settles commitment answer)
  | .height answer => now < time → ¬ Passes limit answer
  | _ => True

section
variable {w : World ℚ} {h t : Dialogue.History ℚ}

/-- A poll finds out whether the transaction has reached its level. -/
theorem poll_landing {r : Except Failure (Option Outcome)} (hi : w.Instantaneous)
    (hlands : ∀ c ∈ w.timed h t, FitsLanding commitment limit time c.1 c.2)
    (hpoll : Run (poll Dialogue.host Dialogue.ledger commitment signature limit) t r) :
    (time ≤ w.now h → ∃ o, r = .ok (some o) ∧ o.verdict = .confirmed) ∧
      (w.now h < time → r = .ok none) := by
  obtain ⟨answer, t', rfl, hheeds⟩ := poll_asks hpoll
  obtain ⟨hlanded, hpending⟩ := hlands _ List.mem_cons_self
  refine ⟨fun htime => hheeds.confirmed (hlanded htime), fun htime => ?_⟩
  refine hheeds.undecided (hpending htime) fun height hheight => ?_
  have hcall : .height height ∈ Dialogue.calls (.ledger (.status signature answer) :: t') :=
    List.mem_cons_of_mem _ hheight
  obtain ⟨now, hc⟩ := World.exists_mem_timed (w := w) (h := h) hcall
  have hnow : now = w.now h := hi.timed (poll_prompt hpoll) _ hc
  exact hlands _ hc (hnow.trans_lt htime)

theorem now_poll (hi : w.Instantaneous) {r : Except Failure (Option Outcome)}
    (hpoll : Run (poll Dialogue.host Dialogue.ledger commitment signature limit) t r) (now : ℚ) :
    w.now (h ++ [.host (.read now)] ++ t) = w.now h := by
  rw [hi.now_append (poll_prompt hpoll), hi.read]

/-- The gap between two polls is one pause. -/
theorem now_round (hi : w.Instantaneous) {r : Except Failure (Option Outcome)}
    (hpoll : Run (poll Dialogue.host Dialogue.ledger commitment signature limit) t r)
    (now later delay : ℚ) : w.now (h ++ [.host (.read now)] ++ t ++ [.host (.read later)] ++
      [.host (.slept delay)]) = w.now h + delay := by
  rw [hi.slept, hi.read, now_poll hi hpoll]

/-- A round that begins before the landing, or less than a gap after it, leads to the confirmation,
unless the rounds are used up. If it finds nothing yet then it began before the landing, so the next
one begins less than a gap after it. -/
theorem Rounds.noticed {polling : Polling ℚ} {start gap interval : ℚ} {rounds : Nat}
    {polls : List (Poll (Dialogue.Event ℚ) ℚ)} {r : Except Failure Outcome} (hi : w.Instantaneous)
    (hdeadline : time + gap ≤ start + polling.timeout) (hcap : polling.cap ≤ gap)
    (hrounds : Rounds True .host Dialogue.ledger commitment polling signature limit start rounds interval
      polls t r) (hinterval : interval ≤ gap) (hhears : w.Hears h t)
    (hlands : ∀ c ∈ w.timed h t, FitsLanding commitment limit time c.1 c.2)
    (hnow : w.now h < time + gap) :
    Dialogue.polls t = rounds ∨
      ∃ o, r = .ok o ∧ o.verdict = .confirmed ∧ w.now (h ++ t) < time + gap := by
  induction hrounds generalizing h with
  | exhausted => exact .inl rfl
  | late hlate =>
    obtain ⟨rfl, -⟩ := hhears
    exact absurd (inTime_iff.2 (hnow.trans_le hdeadline)) hlate
  | @decided _ _ now t r _ hpoll =>
    obtain ⟨hconfirms, hpending⟩ := poll_landing (h := h ++ [.host (.read now)]) hi hlands hpoll
    rw [hi.read] at hconfirms hpending
    right
    obtain hlanded | hopen := le_or_gt time (w.now h)
    · obtain ⟨o, ho, hv⟩ := hconfirms hlanded
      cases r <;> cases ho
      refine ⟨o, rfl, hv, ?_⟩
      rw [List.append_cons, now_poll hi hpoll]
      exact hnow
    · cases r <;> cases hpending hopen
  | @ended _ _ now later t _ hpoll hover =>
    obtain ⟨-, hhears⟩ := hhears
    obtain ⟨-, rfl, -⟩ := World.hears_append.1 hhears
    rw [over_iff, now_poll hi hpoll] at hover
    exact absurd hover (not_le.2 (hnow.trans_le hdeadline))
  | @again _ interval now later _ t t' _ _ hpoll _ _ ih =>
    obtain ⟨-, rfl, hrest⟩ := World.hears_round hhears
    rw [World.timed, World.timed_append] at hlands
    obtain ⟨hpollFits, hlater⟩ := List.forall_mem_append.1 hlands
    have hpolled := poll_landing hi hpollFits hpoll
    rw [hi.read] at hpolled
    -- the poll is undecided, so the transaction has not landed yet
    have hopen : w.now h < time := by
      refine lt_of_not_ge fun hlanded => ?_
      obtain ⟨o, ho, -⟩ := hpolled.1 hlanded
      cases ho
    have hgrown : polling.grow interval ≤ gap :=
      (grow_eq interval).trans_le ((min_le_right _ _).trans hcap)
    have hnext : ∀ left, w.now h + Seconds.least interval left < time + gap := fun left =>
      add_lt_add_of_lt_of_le hopen ((Seconds.least_le_left interval left).trans hinterval)
    rw [polls_round hpoll]
    obtain hall | hconfirmed := ih hgrown hrest hlater
      ((now_round hi hpoll now _ _).trans_lt (hnext _))
    · exact .inl (congrArg (· + 1) hall)
    · exact .inr (by simpa using hconfirmed)

end

/-- If calls take no time, then polling returns the confirmation no later than the longer of the first
interval and the cap after the transaction has reached its level, if that is in time. -/
theorem confirmation_noticed {w : World ℚ} (hi : w.Instantaneous) {timeout interval cap : ℚ}
    (hinterval : 0 < interval) (hcap : 0 < cap) (hstart : w.now [] ≤ time)
    (hdeadline : time + max interval cap ≤ w.now [] + timeout) {r : Except Failure Outcome}
    {t : Dialogue.History ℚ} (hrun : World.run
      (await w.host w.ledger commitment (.every timeout interval cap) signature limit) = (r, t))
    (hlands : ∀ c ∈ w.timed [] t, FitsLanding commitment limit time c.1 c.2) :
    ∃ o, r = .ok o ∧ o.verdict = .confirmed ∧ w.now t ≤ time + max interval cap := by
  have hgap : 0 < max interval cap := lt_max_of_lt_left hinterval
  obtain ⟨polls, t', rfl, hhears, hrounds⟩ := World.await_rounds hrun
  have hread : w.now [.host (.read (w.now []))] = w.now [] := hi.read [] _
  have hnoticed := hrounds.noticed hi hdeadline (le_max_right _ _) (le_max_left _ _) hhears hlands
    (hread.trans_lt (lt_add_of_le_of_pos hstart hgap))
  obtain hall | ⟨o, ho, hv, htime⟩ := hnoticed
  · have hpolls := hrounds.polls_le_ceil hi.keepsTime hinterval hcap hhears
    exact absurd hall (hpolls.trans_lt (ceil_lt_rounds (lt_min hinterval hcap))).ne
  · exact ⟨o, ho, hv, htime.le⟩

theorem landsAt_fits (pace time : ℚ) {h t : Dialogue.History ℚ}
    (hhears : (landsAt pace time).Hears h t) :
    ∀ c ∈ (landsAt pace time).timed h t, FitsLanding .confirmed (.int 100) time c.1 c.2 := by
  refine World.forall_timed (fun h e htells => ?_) hhears
  cases e with
  | status signature answer =>
    replace htells : answer = .ok (if (landsAt pace time).now h < time then none else _) := htells
    rw [htells]
    refine ⟨fun hlanded => ?_, fun hopen => ?_⟩
    · rw [if_neg (not_lt.2 hlanded)]
      exact ⟨_, rfl, rfl, rfl⟩
    · rw [if_pos hopen]
      exact id
  | height answer =>
    replace htells : answer = .ok (.int 0) := htells
    rw [htells]
    exact fun _ hpasses => hpasses rfl
  | _ => trivial

theorem awaitLanding_fits (polling : Polling ℚ) (pace time : ℚ) :
    ∀ c ∈ (landsAt pace time).timed [] (awaitLanding polling pace time).2,
      FitsLanding .confirmed (.int 100) time c.1 c.2 := by
  have hrun : awaitLanding polling pace time =
      ((awaitLanding polling pace time).1, (awaitLanding polling pace time).2) := rfl
  obtain ⟨_, t', ht, hhears, -⟩ := World.await_rounds hrun
  refine landsAt_fits pace time ?_
  rw [ht]
  exact ⟨rfl, hhears⟩

/-- A transaction that lands after fourteen seconds is noticed before nineteen seconds are over. -/
theorem confirmation_noticed_landing : (landsAt 0 14).Instantaneous ∧ (0 : ℚ) < 1 ∧ (0 : ℚ) < 5 ∧
    (landsAt 0 14).now [] ≤ 14 ∧ (14 : ℚ) + max 1 5 ≤ (landsAt 0 14).now [] + 60 ∧
    (∀ c ∈ (landsAt 0 14).timed [] (awaitLanding (.every 60 1 5) 0 14).2,
      FitsLanding .confirmed (.int 100) 14 c.1 c.2) ∧
    ∃ o, (awaitLanding (.every 60 1 5) 0 14).1 = .ok o ∧ o.verdict = .confirmed ∧
      (landsAt 0 14).now (awaitLanding (.every 60 1 5) 0 14).2 ≤ 14 + max 1 5 := by
  have hi : (landsAt 0 14).Instantaneous := World.instantaneous_timeline _
  have hlands := awaitLanding_fits (.every 60 1 5) 0 14
  refine ⟨hi, by norm_num, by norm_num, by decide +kernel, by decide +kernel, hlands, ?_⟩
  exact confirmation_noticed hi (by norm_num) (by norm_num) (by decide +kernel) (by decide +kernel)
    Prod.mk.eta.symm hlands

end Confirmation
end StorageAgent
