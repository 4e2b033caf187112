import StorageAgent.Proofs.Confirmation.Pauses
import StorageAgent.Proofs.Confirmation.Told

/-!
# Polling keeps to its time

Whatever the cluster answers and however long it takes, polling comes to an end: a pause is never
longer than the time that is left, and unless it is cut short it lasts as long as the shorter of the
first interval and the cap, so every poll brings the end nearer.

* `KeepsTime`: what is asked of the clock.
* `poll_asks`: what one poll asks, and what it makes of the answers.
* `Rounds.within`: the rounds that are left keep to the time that is left.
* `polling_bounded`: the polls are few, the pauses fit the timeout, no poll begins after it, and only
  then is a transaction given up.
-/
namespace StorageAgent

open Behaviour

/-- The clock of a world goes on: in a pause at least for as long as the pause was to last, and in a
call or a report for some time or none. A look at it takes no time. -/
structure World.KeepsTime (w : World ℚ) : Prop where
  slept : ∀ h d, w.now h + d ≤ w.now (h ++ [.host (.slept d)])
  prompt : ∀ h e, Dialogue.Prompt e → w.now h ≤ w.now (h ++ [e])
  read : ∀ h time, w.now (h ++ [.host (.read time)]) = w.now h

namespace World

variable {w : World ℚ} {h t : Dialogue.History ℚ}

theorem KeepsTime.le (hk : w.KeepsTime) (ht : ∀ e ∈ t, Dialogue.Prompt e) :
    w.now h ≤ w.now (h ++ t) := by
  induction t generalizing h with
  | nil => simp
  | cons e t ih =>
    obtain ⟨he, ht⟩ := List.forall_mem_cons.1 ht
    rw [List.append_cons]
    exact (hk.prompt h e he).trans (ih ht)

/-- A round of polling in a world: the times are those of its clock, and the rest happens behind
it. -/
theorem hears_round {τ : Type} {w : World τ} {h t t' : Dialogue.History τ} {now later delay : τ}
    (hhears : w.Hears h (.host (.read now) :: (t ++ .host (.read later) :: .host (.slept delay) ::
      t'))) :
    now = w.now h ∧ later = w.now (h ++ [.host (.read now)] ++ t) ∧
      w.Hears (h ++ [.host (.read now)] ++ t ++ [.host (.read later)] ++ [.host (.slept delay)])
        t' := by
  obtain ⟨hnow, hhears⟩ := hhears
  obtain ⟨-, hlater, -, hhears⟩ := hears_append.1 hhears
  exact ⟨hnow, hlater, hhears⟩

theorem elapsed_of_prompt (pace : ℚ) {e : Dialogue.Event ℚ} (he : Dialogue.Prompt e) :
    elapsed pace [e] = 0 ∨ elapsed pace [e] = pace := by
  cases e with
  | ledger e => exact .inr (by simp [elapsed])
  | host e =>
    cases e with
    | logged line => exact .inl (by simp [elapsed])
    | _ => cases he

theorem keepsTime_timeline {pace : ℚ} (hpace : 0 ≤ pace) (status : ℚ → Option SignatureStatus) :
    (timeline pace status).KeepsTime := by
  refine ⟨fun h d => ?slept, fun h e he => ?prompt, fun h time => ?read⟩
  case slept => simp [timeline_concat, elapsed]
  case prompt =>
    rw [timeline_concat]
    obtain hzero | hpaced := elapsed_of_prompt pace he
    · rw [hzero, add_zero]
    · exact le_add_of_nonneg_right (hpace.trans hpaced.ge)
  case read => simp [timeline_concat, elapsed]

end World

/-- The last thing that happens is a look at the clock, at the deadline or later, and a report. -/
def World.Overdue (w : World ℚ) (deadline : ℚ) (t : Dialogue.History ℚ) : Prop :=
  ∃ h line, t = h ++ [.host (.read (w.now h)), .host (.logged line)] ∧ deadline ≤ w.now h

/-- Whether a call asks for a status. -/
def Ledger.Event.isStatus : Ledger.Event → Bool
  | .status .. => true
  | _ => false

/-- The failure that a call ended in, if it did. -/
def Ledger.Event.failure? : Ledger.Event → Option Failure
  | .checkpoint (.error f) => some f
  | .sent _ (.error f) => some f
  | .status _ (.error f) => some f
  | .height (.error f) => some f
  | .account _ (.error f) => some f
  | _ => none

/-- How often a status was asked for. -/
def Dialogue.polls {τ : Type} (t : Dialogue.History τ) : Nat :=
  (Dialogue.calls t).countP Ledger.Event.isStatus

namespace Confirmation

open Dialogue (Prompt pauses)

section
variable {τ : Type} {commitment : Commitment} {polling : Polling τ} {signature limit : Json}

/-! ## What a poll asks -/

/-- What a poll makes of the answer about the status, and of what it asks behind it. -/
structure Heeds (commitment : Commitment) (limit : Json)
    (answer : Except Failure (Option SignatureStatus)) (later : List Ledger.Event)
    (r : Except Failure (Option Outcome)) : Prop where
  heights : ∀ e ∈ later, ∃ height, e = .height height
  confirmed : Confirms commitment answer → ∃ o, r = .ok (some o) ∧ o.verdict = .confirmed
  undecided : ¬ Settles commitment answer →
    (∀ height, .height height ∈ later → ¬ Passes limit height) → r = .ok none
  known : ∀ o, r = .ok (some o) → o.verdict ≠ .unknown
  failed : ∀ f, r = .error f → f = .of .outOfRounds →
    answer = .error f ∨ .height (.error f) ∈ later

theorem heightFault_outOfRounds {answer : Except Failure Json}
    (h : heightFault signature limit answer = some (.of .outOfRounds)) :
    answer = .error (.of .outOfRounds) := by
  cases answer with
  | error f =>
    rw [heightFault] at h
    split at h <;> cases h
    rfl
  | ok height =>
    rw [heightFault] at h
    split at h <;> cases h

theorem heeds_of_decided {status : SignatureStatus} {r : Except Failure (Option Outcome)}
    (h : Decided commitment signature status r) :
    Heeds commitment limit (.ok (some status)) [] r := by
  refine ⟨by simp, ?confirmed, ?undecided, fun o ho => (h.outcome ho).2, ?failed⟩
  case confirmed =>
    rintro ⟨_, ⟨⟩, hf, hreached⟩
    exact h.confirmed_iff.1 ⟨hf, hreached⟩
  case undecided => exact fun hopen _ => h.eq_none_iff.2 hopen
  case failed =>
    rintro _ rfl hf
    cases h with
    | @garbled fault => cases fault <;> cases hf

theorem heeds_of_height {answer : Except Failure Json} {r : Except Failure (Option Outcome)}
    (h : r = match heightFault signature limit answer with
      | some f => .error f
      | none => .ok none) : Heeds commitment limit (.ok none) [.height answer] r := by
  refine ⟨by simp, by simp [Confirms], ?undecided, ?known, ?failed⟩
  case undecided =>
    intro _ hopen
    rw [h, (heightFault_eq_none_iff signature).2 (hopen answer List.mem_cons_self)]
  case known =>
    rintro o rfl
    split at h <;> cases h
  case failed =>
    rintro _ rfl rfl
    refine .inr (List.mem_singleton.2 (congrArg _ ?_))
    split at h
    · next hfault =>
      cases h
      exact (heightFault_outOfRounds hfault).symm
    · cases h

/-- A poll asks for the status first, and once. -/
theorem poll_asks {t : Dialogue.History τ} {r : Except Failure (Option Outcome)}
    (h : Run (poll Dialogue.host Dialogue.ledger commitment signature limit) t r) :
    ∃ answer t', t = .ledger (.status signature answer) :: t' ∧
      Heeds commitment limit answer (Dialogue.calls t') r := by
  cases poll_cases h with
  | @failed _ t₂ f _ hs ht hr =>
    obtain rfl := Dialogue.status_run.1 hs
    refine ⟨_, t₂, rfl, ?_⟩
    rw [Dialogue.calls_of_only ht]
    cases hf : f.isTransport <;> constructor <;> simp [hr, hf, Confirms, Settles]
  | missing hs =>
    obtain rfl := Dialogue.status_run.1 hs
    refine ⟨_, [], rfl, ?_⟩
    constructor <;> simp [Confirms]
  | @told _ t₂ _ _ hs ht hr =>
    obtain rfl := Dialogue.status_run.1 hs
    refine ⟨_, t₂, rfl, ?_⟩
    rw [Dialogue.calls_of_only ht]
    exact heeds_of_decided hr
  | @aged _ _ t₃ answer _ hs hh ht hr =>
    obtain rfl := Dialogue.status_run.1 hs
    obtain rfl := Dialogue.height_run.1 hh
    refine ⟨_, .ledger (.height answer) :: t₃, rfl, ?_⟩
    rw [Dialogue.calls_ledger, Dialogue.calls_of_only ht]
    exact heeds_of_height hr

end

/-! ## Times -/

section
variable {polling : Polling ℚ} {start now : ℚ}

theorem inTime_iff : InTime polling start now ↔ now < start + polling.timeout :=
  decide_eq_true_iff.trans sub_lt_iff_lt_add'

theorem remaining_eq : remaining polling start now = start + polling.timeout - now := by
  change polling.timeout - (now - start) = _
  ring

theorem over_iff : Over polling start now ↔ start + polling.timeout ≤ now := by
  unfold Over
  rw [remaining_eq]
  exact decide_eq_true_iff.trans (by rw [Seconds.zero_eq, sub_nonpos])

end

/-- One step less of what is left is one step less to count. -/
theorem ceil_lt_of_step {step left next : ℚ} (hstep : 0 < step) (hleft : 0 < left)
    (hnext : next ≤ max (left - step) 0) : ⌈next / step⌉₊ < ⌈left / step⌉₊ := by
  have hpos : 0 < ⌈left / step⌉₊ := Nat.ceil_pos.2 (div_pos hleft hstep)
  have hless : next / step ≤ max (left / step - 1) 0 := by
    rw [div_le_iff₀ hstep, max_mul_of_nonneg _ _ hstep.le, zero_mul, sub_mul, one_mul,
      div_mul_cancel₀ _ hstep.ne']
    exact hnext
  calc ⌈next / step⌉₊ ≤ ⌈max (left / step - 1) 0⌉₊ := Nat.ceil_le_ceil hless
    _ = ⌈left / step⌉₊ - 1 := by
      rw [Nat.ceil_mono.map_max, Nat.ceil_sub_one, Nat.ceil_zero, Nat.max_zero]
    _ < ⌈left / step⌉₊ := Nat.sub_one_lt hpos.ne'

/-! ## Rounds in a world -/

section
variable {commitment : Commitment} {signature limit : Json}

theorem polls_append {τ : Type} (t₁ t₂ : Dialogue.History τ) :
    Dialogue.polls (t₁ ++ t₂) = Dialogue.polls t₁ + Dialogue.polls t₂ := by
  rw [Dialogue.polls, Dialogue.calls_append, List.countP_append]
  rfl

theorem polls_poll {τ : Type} {t : Dialogue.History τ} {r : Except Failure (Option Outcome)}
    (h : Run (poll Dialogue.host Dialogue.ledger commitment signature limit) t r) :
    Dialogue.polls t = 1 := by
  obtain ⟨answer, t', rfl, hheeds⟩ := poll_asks h
  have hnone : (Dialogue.calls t').countP Ledger.Event.isStatus = 0 := by
    rw [List.countP_eq_zero]
    intro e he
    obtain ⟨_, rfl⟩ := hheeds.heights e he
    exact Bool.false_ne_true
  exact (List.countP_cons_of_pos rfl).trans (congrArg (· + 1) hnone)

/-- A poll asks for the status when it begins. -/
theorem timed_poll {τ : Type} {w : World τ} {h t : Dialogue.History τ}
    {r : Except Failure (Option Outcome)}
    (hpoll : Run (poll Dialogue.host Dialogue.ledger commitment signature limit) t r) :
    ∀ c ∈ w.timed h t, c.2.isStatus = true → c.1 = w.now h := by
  obtain ⟨answer, t', rfl, hheeds⟩ := poll_asks hpoll
  refine List.forall_mem_cons.2 ⟨fun _ => rfl, fun c hc hstatus => ?_⟩
  have hcall : c.2 ∈ Dialogue.calls t' := World.map_timed t' ▸ List.mem_map_of_mem hc
  obtain ⟨_, hheight⟩ := hheeds.heights _ hcall
  rw [hheight] at hstatus
  cases hstatus

theorem polls_round {τ : Type} {t : Dialogue.History τ} {r : Except Failure (Option Outcome)}
    (hpoll : Run (poll Dialogue.host Dialogue.ledger commitment signature limit) t r)
    (e : Host.Event τ) (t' : Dialogue.History τ) :
    Dialogue.polls (.host e :: (t ++ t')) = Dialogue.polls t' + 1 := by
  change Dialogue.polls (t ++ t') = _
  rw [polls_append, polls_poll hpoll, add_comm]

theorem begun_round {w : World ℚ} {h t t' : Dialogue.History ℚ} {time deadline : ℚ}
    {r : Except Failure (Option Outcome)} (hk : w.KeepsTime)
    (hpoll : Run (poll Dialogue.host Dialogue.ledger commitment signature limit) t r)
    (htime : w.now h < deadline) (hrest : ∀ c ∈ w.timed (h ++ [.host (.read time)] ++ t) t',
      c.2.isStatus = true → c.1 < deadline) :
    ∀ c ∈ w.timed h (.host (.read time) :: (t ++ t')), c.2.isStatus = true → c.1 < deadline := by
  intro c hc hstatus
  rw [World.timed, World.timed_append] at hc
  obtain hc | hc := List.mem_append.1 hc
  · rw [timed_poll hpoll c hc hstatus, hk.read]
    exact htime
  · exact hrest c hc hstatus

end

/-! ## Keeping to the time -/

/-- What happens after a history keeps to a deadline: there are no more polls than steps are left
until then, the pauses fit in, no poll begins at the deadline or later, and nothing is given up
before. -/
structure Within (w : World ℚ) (step deadline told : ℚ) (h t : Dialogue.History ℚ)
    (r : Except Failure Outcome) : Prop where
  polls : Dialogue.polls t ≤ ⌈(deadline - w.now h) / step⌉₊
  slept : ((pauses told t).map Dialogue.Pause.delay).sum ≤ max (deadline - w.now h) 0
  begun : ∀ c ∈ w.timed h t, c.2.isStatus = true → c.1 < deadline
  unknown : ∀ o, r = .ok o → o.verdict = .unknown → w.Overdue deadline (h ++ t)

section
variable {w : World ℚ} {commitment : Commitment} {polling : Polling ℚ} {signature limit : Json}
  {start step interval : ℚ} {rounds : Nat}

/-- An interval that is no shorter than a step grows to one that is no shorter. -/
theorem le_grow (hstep : 0 ≤ step) (hcap : step ≤ polling.cap) (hinterval : step ≤ interval) :
    step ≤ polling.grow interval := by
  rw [grow_eq]
  refine le_min (hinterval.trans ?_) hcap
  linarith

/-- The last round keeps to the deadline if it begins before, and gives nothing up too early. -/
theorem Within.last {h t t' : Dialogue.History ℚ} {r : Except Failure Outcome}
    {answer : Except Failure (Option Outcome)} {now deadline told : ℚ} (hk : w.KeepsTime)
    (hstep : 0 < step)
    (hpoll : Run (poll Dialogue.host Dialogue.ledger commitment signature limit) t answer)
    (htime : w.now h < deadline) (hcalls : Dialogue.calls t' = []) (hpauses : pauses now t' = [])
    (hunknown : ∀ o, r = .ok o → o.verdict = .unknown →
      w.Overdue deadline (h ++ .host (.read now) :: (t ++ t'))) :
    Within w step deadline told h (.host (.read now) :: (t ++ t')) r := by
  refine ⟨?polls, ?slept, begun_round hk hpoll htime ?begun, hunknown⟩
  case polls =>
    rw [polls_round hpoll, Dialogue.polls, hcalls]
    exact Nat.ceil_pos.2 (div_pos (sub_pos.2 htime) hstep)
  case slept =>
    change ((pauses now (t ++ t')).map _).sum ≤ _
    rw [Dialogue.pauses_append_of_prompt (poll_prompt hpoll), hpauses]
    exact le_max_right _ _
  case begun =>
    rw [List.map_eq_nil_iff.1 ((World.map_timed t').trans hcalls)]
    exact List.forall_mem_nil _

/-- A round behind which all keeps to the deadline does so too. -/
theorem Within.again {h t t' : Dialogue.History ℚ} {r : Except Failure Outcome}
    {now later delay deadline told : ℚ}
    (hrest : Within w step deadline later (h ++ [.host (.read now)] ++ t ++ [.host (.read later)] ++
      [.host (.slept delay)]) t' r) (hk : w.KeepsTime) (hstep : 0 < step)
    (hinterval : step ≤ interval)
    (hpoll : Run (poll Dialogue.host Dialogue.ledger commitment signature limit) t (.ok none))
    (htime : w.now h < deadline) (hlater : later = w.now (h ++ [.host (.read now)] ++ t))
    (hdelay : delay = min interval (deadline - later)) :
    Within w step deadline told h
      (.host (.read now) :: (t ++ .host (.read later) :: .host (.slept delay) :: t')) r := by
  have hle : w.now h ≤ later := by
    rw [hlater, ← hk.read h now]
    exact hk.le (poll_prompt hpoll)
  have hnext := hk.slept (h ++ [.host (.read now)] ++ t ++ [.host (.read later)]) delay
  rw [hk.read, ← hlater] at hnext
  refine ⟨?polls, ?slept, begun_round hk hpoll htime ?begun, ?unknown⟩
  case polls =>
    rw [polls_round hpoll]
    refine (Nat.add_le_add_right hrest.polls 1).trans (ceil_lt_of_step hstep (sub_pos.2 htime) ?_)
    -- the pause is one step at least, unless it lasts up to the deadline
    obtain hwhole | hcut := le_total interval (deadline - later)
    · rw [min_eq_left hwhole] at hdelay
      exact le_max_of_le_left (by linarith)
    · rw [min_eq_right hcut] at hdelay
      exact le_max_of_le_right (by linarith)
  case slept =>
    rw [pauses_round hpoll, List.map_cons, List.sum_cons]
    have hfits : delay ≤ deadline - later := hdelay.le.trans (min_le_right _ _)
    calc delay + ((pauses later t').map Dialogue.Pause.delay).sum
        ≤ delay + max (deadline - later - delay) 0 :=
          add_le_add_right (hrest.slept.trans (max_le_max_right 0 (by linarith))) delay
      _ = deadline - later := by rw [max_eq_left (by linarith)]; ring
      _ ≤ max (deadline - w.now h) 0 := le_max_of_le_left (by linarith)
  case begun => simpa [World.timed] using hrest.begun
  case unknown => simpa using hrest.unknown

theorem Rounds.within {polls : List (Poll (Dialogue.Event ℚ) ℚ)} {h t : Dialogue.History ℚ}
    {r : Except Failure Outcome} (hk : w.KeepsTime) (hstep : 0 < step) (hcap : step ≤ polling.cap)
    (hrounds : Rounds True .host Dialogue.ledger commitment polling signature limit start rounds interval
      polls t r) (hinterval : step ≤ interval) (hhears : w.Hears h t) (told : ℚ) :
    Within w step (start + polling.timeout) told h t r := by
  induction hrounds generalizing h told with
  | exhausted => exact ⟨Nat.zero_le _, le_max_right _ _, by simp [World.timed], by simp⟩
  | @late _ _ now hlate =>
    obtain ⟨rfl, -⟩ := hhears
    rw [inTime_iff, not_lt] at hlate
    exact ⟨Nat.zero_le _, le_max_right _ _, by simp [World.timed, gaveUp],
      fun _ _ _ => ⟨h, _, rfl, hlate⟩⟩
  | @decided _ _ now t r htime hpoll =>
    obtain ⟨rfl, -⟩ := hhears
    rw [inTime_iff] at htime
    rw [← List.append_nil t]
    refine .last hk hstep hpoll htime rfl rfl ?_
    rintro o rfl hunknown
    obtain ⟨_, _, -, hheeds⟩ := poll_asks hpoll
    exact absurd hunknown (hheeds.known o rfl)
  | @ended _ _ now later t htime hpoll hover =>
    obtain ⟨rfl, hhears⟩ := hhears
    obtain ⟨-, rfl, -⟩ := World.hears_append.1 hhears
    rw [inTime_iff] at htime
    rw [over_iff] at hover
    refine .last hk hstep hpoll htime rfl rfl fun _ _ _ => ?_
    rw [List.append_cons, ← List.append_assoc]
    exact ⟨_, _, rfl, hover⟩
  | @again _ _ now later _ t t' _ htime hpoll _ _ ih =>
    obtain ⟨rfl, rfl, hrest⟩ := World.hears_round hhears
    rw [inTime_iff] at htime
    refine (ih (le_grow hstep.le hcap hinterval) hrest _).again hk hstep hinterval hpoll htime rfl ?_
    rw [Seconds.least_eq_min, remaining_eq]

/-- If its rounds are used up then there were as many polls, unless the ledger failed like that. -/
theorem Rounds.polls_eq_or_failed {τ : Type} [Seconds τ] {polling : Polling τ} {start interval : τ}
    {polls : List (Poll (Dialogue.Event τ) τ)} {t : Dialogue.History τ} {r : Except Failure Outcome}
    (h : Rounds True .host Dialogue.ledger commitment polling signature limit start rounds interval polls
      t r) (hr : r = .error (.of .outOfRounds)) :
    Dialogue.polls t = rounds ∨
      ∃ e ∈ Dialogue.calls t, e.failure? = some (.of .outOfRounds) := by
  induction h with
  | exhausted => exact .inl rfl
  | late => cases hr
  | decided _ hpoll =>
    obtain ⟨answer, t', rfl, hheeds⟩ := poll_asks hpoll
    obtain rfl | hheight := hheeds.failed _ (congrArg _ hr) rfl
    · exact .inr ⟨_, List.mem_cons_self, rfl⟩
    · exact .inr ⟨_, List.mem_cons_of_mem _ hheight, rfl⟩
  | ended => cases hr
  | again _ hpoll _ _ ih =>
    obtain hpolls | ⟨e, he, hf⟩ := ih hr
    · exact .inl ((polls_round hpoll _ _).trans (congrArg (· + 1) hpolls))
    · exact .inr ⟨e, by simp [he], hf⟩

end

/-! ## The bound -/

section
variable {w : World ℚ} {timeout interval cap : ℚ} {commitment : Commitment} {signature limit : Json}

theorem ceil_lt_rounds (hstep : 0 < min interval cap) :
    ⌈timeout / min interval cap⌉₊ < (Polling.every timeout interval cap).rounds := by
  have hrounds : (Polling.every timeout interval cap).rounds =
      2 * ⌈timeout / min interval cap⌉₊ + Polling.spareRounds := by
    unfold Polling.every Seconds.steps
    rw [Seconds.least_eq_min, ← Int.ceil_toNat]
    exact congrArg (2 * · + _) (if_neg hstep.not_ge)
  have hspare : 0 < Polling.spareRounds := by decide
  omega

/-- When polling begins, all of its timeout is left. -/
theorem left_at_start (hk : w.KeepsTime) (timeout : ℚ) :
    w.now [] + timeout - w.now [.host (.read (w.now []))] = timeout := by
  have hread : w.now [.host (.read (w.now []))] = w.now [] := hk.read [] _
  rw [hread, add_sub_cancel_left]

/-- Polling for a timeout has a poll for each step of it at most, so its rounds are not used up. -/
theorem Rounds.polls_le_ceil {rounds : Nat} {polls : List (Poll (Dialogue.Event ℚ) ℚ)}
    {t : Dialogue.History ℚ} {r : Except Failure Outcome} (hk : w.KeepsTime)
    (hinterval : 0 < interval) (hcap : 0 < cap)
    (hrounds : Rounds True .host Dialogue.ledger commitment (.every timeout interval cap) signature limit
      (w.now []) rounds interval polls t r) (hhears : w.Hears [.host (.read (w.now []))] t) :
    Dialogue.polls t ≤ ⌈timeout / min interval cap⌉₊ := by
  have hwithin := hrounds.within hk (lt_min hinterval hcap) (min_le_right _ _) (min_le_left _ _)
    hhears (w.now [])
  exact left_at_start hk timeout ▸ hwithin.polls

end

/-- Polling ends by itself, and does not fail for want of rounds unless a call to the ledger did. There
is a poll for each step of the timeout at most, the pauses between the polls are no longer than the
timeout altogether, no poll begins when it is over, and only then is the transaction given up. -/
structure Bounded (w : World ℚ) (timeout step : ℚ)
    (run : Except Failure Outcome × Dialogue.History ℚ) : Prop where
  ends : run.1 = .error (.of .outOfRounds) →
    ∃ e ∈ Dialogue.calls run.2, e.failure? = some (.of .outOfRounds)
  polls : Dialogue.polls run.2 ≤ ⌈timeout / step⌉₊
  slept : ((pauses (w.now []) run.2).map Dialogue.Pause.delay).sum ≤ timeout
  begun : ∀ c ∈ w.timed [] run.2, c.2.isStatus = true → c.1 < w.now [] + timeout
  unknown : ∀ o, run.1 = .ok o → o.verdict = .unknown → w.Overdue (w.now [] + timeout) run.2

/-- Polling is bounded, whatever is answered, and however long the calls take. -/
theorem polling_bounded {w : World ℚ} (hk : w.KeepsTime) {timeout interval cap : ℚ}
    (htimeout : 0 ≤ timeout) (hinterval : 0 < interval) (hcap : 0 < cap) (commitment : Commitment)
    (signature limit : Json) :
    Bounded w timeout (min interval cap) (World.run
      (await w.host w.ledger commitment (.every timeout interval cap) signature limit)) := by
  generalize hrun : World.run
    (await w.host w.ledger commitment (.every timeout interval cap) signature limit) = run
  obtain ⟨r, t⟩ := run
  obtain ⟨polls, t', rfl, hhears, hrounds⟩ := World.await_rounds hrun
  have hstep : 0 < min interval cap := lt_min hinterval hcap
  have hwithin := hrounds.within hk hstep (min_le_right _ _) (min_le_left _ _) hhears (w.now [])
  have hpolls := hrounds.polls_le_ceil hk hinterval hcap hhears
  have hslept : ((pauses (w.now []) t').map Dialogue.Pause.delay).sum ≤ timeout := by
    rw [← max_eq_left htimeout, ← left_at_start hk timeout]
    exact hwithin.slept
  refine ⟨fun hr => ?_, hpolls, hslept, hwithin.begun, hwithin.unknown⟩
  refine (hrounds.polls_eq_or_failed hr).resolve_left fun hall => ?_
  exact absurd hpolls (not_le.2 (hall ▸ ceil_lt_rounds hstep))

/-- Where each call takes a quarter of a second and the transaction does not land in time, there are
four polls in ten seconds. -/
theorem polling_bounded_slow : (landsAt (1 / 4) 60).KeepsTime ∧ (0 : ℚ) ≤ 10 ∧ (0 : ℚ) < 1 ∧
    (0 : ℚ) < 5 ∧ Bounded (landsAt (1 / 4) 60) 10 (min 1 5) (awaitLanding (.every 10 1 5) (1 / 4) 60) ∧
    Dialogue.polls (awaitLanding (.every 10 1 5) (1 / 4) 60).2 = 4 ∧
    (pauses 0 (awaitLanding (.every 10 1 5) (1 / 4) 60).2).map Dialogue.Pause.delay =
      [1, 3 / 2, 9 / 4, 13 / 4] := by
  have hk : (landsAt (1 / 4) 60).KeepsTime := World.keepsTime_timeline (by norm_num) _
  refine ⟨hk, by norm_num, by norm_num, by norm_num, ?_, by decide +kernel, by decide +kernel⟩
  exact polling_bounded hk (by norm_num) (by norm_num) (by norm_num) .confirmed (.text "signature")
    (.int 100)

end Confirmation
end StorageAgent
