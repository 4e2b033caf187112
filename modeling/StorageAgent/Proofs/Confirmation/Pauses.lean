import StorageAgent.Proofs.Confirmation.World
import StorageAgent.Proofs.Seconds

/-!
# Pauses between polls

Behind an undecided poll lies a pause. The pauses grow by half from one to the next, and the cap is
there to bound them. But it is put on an interval when it has grown, so the first interval goes
without.

* `Rounds.getElem?_pauses`: how long each pause is.
* `capped_iff`: the pauses of a run keep to the cap exactly if the first interval does, or if no more
  than the cap is left of the time when the first pause begins.
* `paused_past_cap`: with a first interval of ten seconds and a cap of five, there is a pause of ten
  seconds and then one of five.
-/
namespace StorageAgent

open Behaviour

namespace Dialogue

variable {τ : Type} {t₁ t₂ : History τ} {told : τ}

/-- Something that takes no pause and reads no clock: a call to the ledger, or a report. -/
def Prompt : Event τ → Prop
  | .ledger _ => True
  | .host (.logged _) => True
  | .host _ => False

/-- A pause, and the time that the clock told last before it. -/
structure Pause (τ : Type) where
  told : τ
  delay : τ

/-- The pauses in what happens after the clock told a time. -/
def pauses : τ → History τ → List (Pause τ)
  | _, [] => []
  | _, .host (.read now) :: t => pauses now t
  | told, .host (.slept delay) :: t => ⟨told, delay⟩ :: pauses told t
  | told, _ :: t => pauses told t

theorem pauses_append_of_prompt (h : ∀ e ∈ t₁, Prompt e) :
    pauses told (t₁ ++ t₂) = pauses told t₂ := by
  induction t₁ with
  | nil => rfl
  | cons e t₁ ih =>
    obtain ⟨he, ht⟩ := List.forall_mem_cons.1 h
    cases e with
    | ledger e => exact ih ht
    | host e =>
      cases e with
      | logged line => exact ih ht
      | _ => cases he

theorem pauses_of_prompt (h : ∀ e ∈ t₁, Prompt e) : pauses told t₁ = [] := by
  rw [← List.append_nil t₁, pauses_append_of_prompt h]
  rfl

end Dialogue

namespace Confirmation

open Dialogue (Prompt pauses)

section
variable {τ : Type} {commitment : Commitment} {polling : Polling τ} {signature limit : Json}

/-! ## Polls are prompt -/

theorem tolerate_prompt {α : Type} {describe : TransportFault → String}
    {question : ExceptT Failure (Behaviour (Dialogue.Event τ)) α} (h : Leaves Prompt question) :
    Leaves Prompt (tolerate Dialogue.host describe question) := by
  intro t r hrun
  obtain ⟨_, hask, -⟩ | ⟨t₁, _, hask, rfl, -⟩ | ⟨_, hask, -, -⟩ := tolerate_run.1 hrun
  · exact h hask
  · exact List.forall_mem_append.2 ⟨h hask, List.forall_mem_singleton.2 trivial⟩
  · exact h hask

theorem decided_prompt {status : SignatureStatus} :
    Leaves (Prompt (τ := τ)) (decided Dialogue.host commitment signature status) := by
  have hlog : ∀ line o, Leaves (Prompt (τ := τ)) (do
      (liftM (Dialogue.host.log line) : ExceptT Failure (Behaviour (Dialogue.Event τ)) Unit)
      pure (some o : Option Outcome)) :=
    fun _ _ => .bind (.answered fun _ => trivial) fun _ => .pure _
  unfold decided
  split
  · refine .bind ?_ fun _ => hlog _ _
    intro t r h
    obtain ⟨rfl, -⟩ := run_except.1 h
    exact List.forall_mem_nil _
  · split
    · exact hlog _ _
    · exact .pure _

/-- A poll neither pauses nor reads the clock. -/
theorem poll_prompt :
    Leaves (Prompt (τ := τ)) (poll Dialogue.host Dialogue.ledger commitment signature limit) := by
  have hstatus : Leaves Prompt (Dialogue.ledger (τ := τ).status signature) := by
    intro t r h
    rw [Dialogue.status_run.1 h]
    exact List.forall_mem_singleton.2 trivial
  have hheight : Leaves Prompt (Dialogue.ledger (τ := τ)).height := by
    intro t r h
    rw [Dialogue.height_run.1 h]
    exact List.forall_mem_singleton.2 trivial
  refine .bind (tolerate_prompt hstatus) fun answer => ?_
  split
  · exact .pure _
  · exact decided_prompt
  · split
    · exact .pure _
    · refine .bind (.bind (tolerate_prompt hheight) fun height => ?_) fun _ => .pure _
      split
      · exact .pure _
      · split
        · exact .throw _
        · exact .throw _
        · exact .pure _

/-- Between a poll and the next one there is one pause. -/
theorem pauses_round {told now later delay : τ} {t t' : Dialogue.History τ}
    {r : Except Failure (Option Outcome)}
    (hpoll : Run (poll Dialogue.host Dialogue.ledger commitment signature limit) t r) :
    pauses told (.host (.read now) :: (t ++ .host (.read later) :: .host (.slept delay) :: t')) =
      ⟨later, delay⟩ :: pauses later t' :=
  Dialogue.pauses_append_of_prompt (poll_prompt hpoll)

/-- The pause behind the poll with number `k` lasts as long as the interval that has grown `k` times,
or as long as there is time left. -/
theorem Rounds.getElem?_pauses [Seconds τ] {cut : Prop} {start : τ} {rounds : Nat} {interval : τ}
    {polls : List (Poll (Dialogue.Event τ) τ)} {t : Dialogue.History τ} {r : Except Failure Outcome}
    (h : Rounds cut .host Dialogue.ledger commitment polling signature limit start rounds interval
      polls t r) (told : τ) {k : Nat} {p : Dialogue.Pause τ} (hp : (pauses told t)[k]? = some p) :
    p.delay = Seconds.least (polling.grow^[k] interval) (remaining polling start p.told) := by
  induction h generalizing told k with
  | exhausted => cases hp
  | late => cases hp
  | @decided _ _ now t _ _ hpoll =>
    change (pauses now t)[k]? = some p at hp
    rw [Dialogue.pauses_of_prompt (poll_prompt hpoll)] at hp
    cases hp
  | @ended _ _ now _ t _ hpoll =>
    change (pauses now (t ++ _))[k]? = some p at hp
    rw [Dialogue.pauses_append_of_prompt (poll_prompt hpoll)] at hp
    cases hp
  | @again _ _ _ later _ _ _ _ _ hpoll _ _ ih =>
    rw [pauses_round hpoll] at hp
    cases k with
    | zero =>
      cases hp
      rfl
    | succ k => exact ih later hp

end

/-! ## The cap -/

/-- The pause with number `k` is the first interval grown `k` times by half, but not past the cap, and
not past the time that is left. So no pause is longer than the cap, and none is shorter than the one
before it unless the time is running out. -/
structure Capped (polling : Polling ℚ) (start : ℚ) (pauses : List (Dialogue.Pause ℚ)) : Prop where
  law : ∀ (k : Nat) p, pauses[k]? = some p →
    p.delay = min (min (polling.interval * (3 / 2) ^ k) polling.cap) (remaining polling start p.told)
  capped : ∀ p ∈ pauses, p.delay ≤ polling.cap
  grows : ∀ (k : Nat) p q, pauses[k]? = some p → pauses[k + 1]? = some q → q.delay < p.delay →
    q.delay = remaining polling start q.told

variable {polling : Polling ℚ}

theorem grow_eq (interval : ℚ) :
    polling.grow interval = min (interval * (3 / 2)) polling.cap := by
  unfold Polling.grow
  rw [Seconds.least_eq_min]
  rfl

/-- However often it has grown, an interval is capped, unless it has not grown at all. -/
theorem iterate_grow (hcap : 0 ≤ polling.cap) (interval : ℚ) (k : Nat) :
    polling.grow^[k + 1] interval = min (interval * (3 / 2) ^ (k + 1)) polling.cap := by
  induction k generalizing interval with
  | zero => simp [grow_eq]
  | succ k ih =>
    rw [Function.iterate_succ_apply, ih, grow_eq]
    have hgrown : polling.cap ≤ polling.cap * (3 / 2) ^ (k + 1) :=
      le_mul_of_one_le_right hcap (one_le_pow₀ (by norm_num))
    rw [min_mul_of_nonneg _ _ (by positivity), min_assoc, min_eq_right hgrown]
    congr 1
    ring

section
variable {start : ℚ} {pauses : List (Dialogue.Pause ℚ)}

/-- Pauses that follow their intervals are capped exactly if the first of them is. -/
theorem capped_iff_of_law (hinterval : 0 < polling.interval) (hcap : 0 < polling.cap)
    (hlaw : ∀ (k : Nat) p, pauses[k]? = some p →
      p.delay = min (polling.grow^[k] polling.interval) (remaining polling start p.told)) :
    Capped polling start pauses ↔ polling.interval ≤ polling.cap ∨
      ∀ p, pauses.head? = some p → remaining polling start p.told ≤ polling.cap := by
  constructor
  · intro hcapped
    by_contra hnot
    obtain ⟨hlarge, hleft⟩ := not_or.1 hnot
    push Not at hlarge hleft
    obtain ⟨p, hp, hmore⟩ := hleft
    have hfirst : p.delay = min polling.interval (remaining polling start p.told) :=
      hlaw 0 p (by rwa [← List.head?_eq_getElem?])
    have hdelay := hcapped.capped p (List.mem_of_mem_head? hp)
    rw [hfirst] at hdelay
    exact absurd hdelay (not_le.2 (lt_min hlarge hmore))
  · intro hfits
    have hgrown : ∀ k : Nat, 0 < polling.interval * (3 / 2) ^ k := fun k => by positivity
    have hcapped : ∀ (k : Nat) p, pauses[k]? = some p → p.delay =
        min (min (polling.interval * (3 / 2) ^ k) polling.cap) (remaining polling start p.told) := by
      intro k p hp
      rw [hlaw k p hp]
      cases k with
      | succ k => rw [iterate_grow hcap.le]
      | zero =>
        rw [pow_zero, mul_one]
        obtain hsmall | hleft := hfits
        · rw [min_eq_left hsmall]
          rfl
        · -- the cap makes no difference where no more than the cap is left
          have hfew := hleft p (by rwa [List.head?_eq_getElem?])
          rw [min_assoc, min_eq_right hfew]
          rfl
    refine ⟨hcapped, ?_, ?_⟩
    · intro p hp
      obtain ⟨k, hk⟩ := List.mem_iff_getElem?.1 hp
      rw [hcapped k p hk]
      exact (min_le_left _ _).trans (min_le_right _ _)
    · intro k p q hp hq hless
      -- the interval behind `p` is at least as long as the pause `p`
      have hinterval : p.delay ≤ polling.grow^[k + 1] polling.interval := by
        rw [iterate_grow hcap.le, hcapped k p hp, pow_succ, ← mul_assoc]
        refine (min_le_left _ _).trans (min_le_min_right _ ?_)
        linarith [hgrown k]
      rw [hlaw (k + 1) q hq] at hless ⊢
      refine min_eq_right (le_of_not_ge fun hshort => ?_)
      rw [min_eq_left hshort] at hless
      exact absurd hinterval (not_le.2 hless)

end

/-- The pauses of a run keep to the cap exactly if the first interval does, or if no more than the
cap is left of the time when the first pause begins. -/
theorem capped_iff {commitment : Commitment} {signature limit : Json} {t : Dialogue.History ℚ}
    {r : Except Failure Outcome} (hinterval : 0 < polling.interval) (hcap : 0 < polling.cap)
    (h : Run (await Dialogue.host Dialogue.ledger commitment polling signature limit) t r) :
    ∃ start, t.head? = some (.host (.read start)) ∧
      (Capped polling start (pauses start t) ↔ polling.interval ≤ polling.cap ∨
        ∀ p, (pauses start t).head? = some p → remaining polling start p.told ≤ polling.cap) := by
  obtain ⟨start, polls, t', rfl, hrounds⟩ := await_iff.1 h
  refine ⟨start, rfl, capped_iff_of_law hinterval hcap fun k p hp => ?_⟩
  rw [← Seconds.least_eq_min]
  exact hrounds.getElem?_pauses start hp

/-- Each call takes `pace`, and a transaction lands after a time. -/
def landsAt (pace time : ℚ) : World ℚ :=
  .timeline pace fun now =>
    if now < time then none else some ⟨.int 7, .null, .text "confirmed", .null⟩

/-- Polling for a transaction that lands after a time. -/
def awaitLanding (polling : Polling ℚ) (pace time : ℚ) :
    Except Failure Outcome × Dialogue.History ℚ :=
  World.run (await (landsAt pace time).host (landsAt pace time).ledger .confirmed polling
    (.text "signature") (.int 100))

theorem awaitLanding_run (polling : Polling ℚ) (pace time : ℚ)
    (hends : (awaitLanding polling pace time).1.toBool = true) :
    Run (await Dialogue.host Dialogue.ledger .confirmed polling (.text "signature") (.int 100))
        (awaitLanding polling pace time).2 (awaitLanding polling pace time).1 ∧
      (awaitLanding polling pace time).2.head? = some (.host (.read 0)) := by
  have hrun : awaitLanding polling pace time =
      ((awaitLanding polling pace time).1, (awaitLanding polling pace time).2) := rfl
  refine ⟨World.await_run hrun fun hr => ?_, ?_⟩
  · rw [hr] at hends
    cases hends
  obtain ⟨_, t', ht, -⟩ := World.await_rounds hrun
  rw [ht]
  rfl

/-- With a first interval of one second, the pauses keep to the cap of five seconds. -/
theorem capped_standard : 0 < (Polling.every (60 : ℚ) 1 5).interval ∧
    0 < (Polling.every (60 : ℚ) 1 5).cap ∧ ∃ t r,
      Run (await Dialogue.host Dialogue.ledger .confirmed (Polling.every (60 : ℚ) 1 5)
        (.text "signature") (.int 100)) t r ∧
      (pauses 0 t).map Dialogue.Pause.delay = [1, 3 / 2, 9 / 4, 27 / 8, 5, 5] ∧
      Capped (Polling.every 60 1 5) 0 (pauses 0 t) := by
  have hinterval : 0 < (Polling.every (60 : ℚ) 1 5).interval := by decide +kernel
  have hcap : 0 < (Polling.every (60 : ℚ) 1 5).cap := by decide +kernel
  obtain ⟨hrun, hhead⟩ := awaitLanding_run (.every 60 1 5) 0 14 (by decide +kernel)
  refine ⟨hinterval, hcap, _, _, hrun, by decide +kernel, ?_⟩
  obtain ⟨start, hstart, hcapped⟩ := capped_iff hinterval hcap hrun
  rw [hhead] at hstart
  cases hstart
  exact hcapped.2 (.inl (by decide +kernel))

/-- With a first interval of ten seconds there is a pause of ten seconds, though the cap is five, and
the next pause is shorter. -/
theorem paused_past_cap : ∃ t r,
    Run (await Dialogue.host Dialogue.ledger .confirmed (Polling.every (60 : ℚ) 10 5)
      (.text "signature") (.int 100)) t r ∧ t.head? = some (.host (.read 0)) ∧
      (pauses 0 t).map Dialogue.Pause.delay = [10, 5] ∧
      ¬ Capped (Polling.every 60 10 5) 0 (pauses 0 t) := by
  obtain ⟨hrun, hhead⟩ := awaitLanding_run (.every 60 10 5) 0 12 (by decide +kernel)
  have hpauses : (pauses 0 (awaitLanding (.every 60 10 5) 0 12).2).map Dialogue.Pause.delay =
      [10, 5] := by decide +kernel
  refine ⟨_, _, hrun, hhead, hpauses, fun hcapped => ?_⟩
  obtain ⟨p, hp, hten⟩ := List.mem_map.1 (hpauses ▸ List.mem_cons_self : (10 : ℚ) ∈ _)
  have hle := hcapped.capped p hp
  rw [hten] at hle
  exact absurd hle (by decide +kernel)

end Confirmation
end StorageAgent
