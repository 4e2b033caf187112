import Mathlib.Data.List.DropRight
import StorageAgent.Proofs.Confirmation.Dialogue
import StorageAgent.Proofs.Seconds

/-!
# Is an expired transaction dead?

A transaction can land once, and only up to the last height at which it is valid.
The client takes it for dead when the cluster does not have its status and the
block height is past that last one. But those are two answers, and the chain
moves on in between.

A history interleaves the steps of the chain with the events of a dialogue, in
any order and any number (`Chain.History`). The cluster tells the truth, each
answer at its own moment.

* `expired_dead_iff`: a transaction that was taken for dead is dead exactly if it
  did not land after the last answer about its status.
* `landed_between_answers`: it may land there, so the error does not mean that the
  transaction is dead.
-/
namespace StorageAgent

open Behaviour

/-- What a transaction that was sent depends on: the block height of the chain, and whether the
transaction has landed. -/
structure Chain where
  height : Int
  landed : Bool
  deriving DecidableEq, Repr

/-- What the chain does by itself. -/
inductive Chain.Event where
  | grew (height : Int)
  | landed
  deriving DecidableEq, Repr

/-- A moment of a history: the chain moves, or an event of the dialogue happens. -/
abbrev Moment (τ : Type) := Chain.Event ⊕ Dialogue.Event τ

namespace Moment

variable {τ : Type}

/-- The dialogue in a history. -/
def dialogue (h : List (Moment τ)) : List (Dialogue.Event τ) := h.filterMap Sum.getRight?

/-- Whether the cluster answered for a status. -/
def isStatus : Moment τ → Bool
  | .inr (.ledger (.status ..)) => true
  | _ => false

/-- What happened after the last answer about a status. -/
def sinceStatus (h : List (Moment τ)) : List (Moment τ) := h.rtakeWhile fun m => !m.isStatus

theorem sinceStatus_append (h₁ : List (Moment τ)) {h₂ : List (Moment τ)} {m : Moment τ}
    (hm : m.isStatus = true) (h₂s : ∀ m ∈ h₂, m.isStatus = false) :
    sinceStatus (h₁ ++ m :: h₂) = h₂ := by
  rw [sinceStatus, List.rtakeWhile, List.reverse_append, List.reverse_cons, List.append_assoc,
    List.takeWhile_append_of_pos (by simpa using h₂s)]
  simp [hm]

/-- Between two events of a dialogue that follow each other, and behind the last one, there is
nothing but the chain. -/
theorem cut_of_dialogue {h : List (Moment τ)} {t : List (Dialogue.Event τ)}
    {e₁ e₂ : Dialogue.Event τ} (hd : dialogue h = t ++ [e₁, e₂]) :
    ∃ h₁ h₂ h₃, h = h₁ ++ .inr e₁ :: (h₂ ++ .inr e₂ :: h₃) ∧
      (∀ m ∈ h₂, ∃ e, m = .inl e) ∧ ∀ m ∈ h₃, ∃ e, m = .inl e := by
  obtain ⟨h₁, _, rfl, -, hd⟩ := List.filterMap_eq_append_iff.1 hd
  obtain ⟨g₁, m₁, _, rfl, -, hm₁, hd⟩ := List.filterMap_eq_cons_iff.1 hd
  obtain ⟨g₂, m₂, g₃, rfl, hg₂, hm₂, hg₃⟩ := List.filterMap_eq_cons_iff.1 hd
  obtain rfl := Sum.getRight?_eq_some_iff.1 hm₁
  obtain rfl := Sum.getRight?_eq_some_iff.1 hm₂
  refine ⟨h₁ ++ g₁, g₂, g₃, by simp, fun m hm => ?_, fun m hm => ?_⟩
  · exact Sum.isLeft_iff.1 (Sum.getRight?_eq_none_iff.1 (hg₂ m hm))
  · exact Sum.isLeft_iff.1 (Sum.getRight?_eq_none_iff.1 (List.filterMap_eq_nil_iff.1 hg₃ m hm))

end Moment

namespace Chain

variable {τ : Type} {signature limit : Json}

/-- An event of a dialogue is true of the chain: a status is missing only if the transaction has
not landed, and a height is that of the chain. -/
def Truthful (signature : Json) (c : Chain) : Dialogue.Event τ → Prop
  | .ledger (.status s (.ok none)) => s = signature → c.landed = false
  | .ledger (.height (.ok height)) => height = .int c.height
  | _ => True

/-- One step of a history. The block height never decreases, and the transaction lands once and not
past its limit. -/
inductive Step (signature limit : Json) : Chain → Moment τ → Chain → Prop where
  | grew {c : Chain} {height : Int} (h : c.height ≤ height) :
      Step signature limit c (.inl (.grew height)) { c with height }
  | landed {c : Chain} (hn : c.landed = false)
      (hh : (Json.int c.height).exceeds? limit ≠ some true) :
      Step signature limit c (.inl .landed) { c with landed := true }
  | answered {c : Chain} {e : Dialogue.Event τ} (h : Truthful signature c e) :
      Step signature limit c (.inr e) c

/-- The steps of a history from one state of the chain to another. -/
inductive History (signature limit : Json) : Chain → List (Moment τ) → Chain → Prop where
  | nil {c : Chain} : History signature limit c [] c
  | cons {c c₁ c₂ : Chain} {m : Moment τ} {h : List (Moment τ)} (hs : Step signature limit c m c₁)
      (hh : History signature limit c₁ h c₂) : History signature limit c (m :: h) c₂

/-- The transaction has not landed, and will not, however the history goes on. -/
def Dead (τ : Type) (signature limit : Json) (c : Chain) : Prop :=
  ∀ ⦃h : List (Moment τ)⦄ ⦃c' : Chain⦄, History signature limit c h c' → c'.landed = false

/-- The chain is past the last height at which the transaction can land. -/
def Past (limit : Json) (c : Chain) : Prop := (Json.int c.height).exceeds? limit = some true

theorem exceeds_int {n : Int} :
    (Json.int n).exceeds? limit = limit.magnitude?.map (Json.Magnitude.exact n 1).exceeds := by
  have hn : (Json.int n).magnitude? = some (.exact n 1) := rfl
  cases hm : limit.magnitude? <;> simp [Json.exceeds?, hn, hm]

theorem exceeds_mono {a b : Int} (hab : a ≤ b) (h : (Json.int a).exceeds? limit = some true) :
    (Json.int b).exceeds? limit = some true := by
  rw [exceeds_int] at h ⊢
  obtain ⟨magnitude, hm, h⟩ := Option.map_eq_some_iff.1 h
  refine Option.map_eq_some_iff.2 ⟨magnitude, hm, ?_⟩
  cases magnitude with
  | nan => cases h
  | infinite negative => cases negative <;> exact h
  | exact num den =>
    simp only [Json.Magnitude.exceeds, decide_eq_true_eq] at h ⊢
    exact lt_of_lt_of_le h (Int.mul_le_mul_of_nonneg_right hab (Int.natCast_nonneg den))

section
variable {c c' : Chain} {m : Moment τ} {h h₁ h₂ : List (Moment τ)}

theorem Step.past (hs : Step signature limit c m c') (hp : Past limit c) : Past limit c' := by
  cases hs with
  | grew hle => exact exceeds_mono hle hp
  | landed => exact hp
  | answered => exact hp

theorem Step.landed_iff (hs : Step signature limit c m c') :
    c'.landed = true ↔ c.landed = true ∨ m = .inl .landed := by
  cases hs with
  | grew => simp
  | landed => simp
  | answered => simp

theorem Step.alive (hs : Step signature limit c m c') (hm : m = .inl .landed) : ¬ Past limit c := by
  cases hs with
  | grew => cases hm
  | landed _ hh => exact hh
  | answered => cases hm

theorem History.append_iff : History signature limit c (h₁ ++ h₂) c' ↔
    ∃ c₁, History signature limit c h₁ c₁ ∧ History signature limit c₁ h₂ c' := by
  induction h₁ generalizing c with
  | nil =>
    constructor
    · exact fun h => ⟨c, .nil, h⟩
    · rintro ⟨_, ⟨⟩, h⟩
      exact h
  | cons m h₁ ih =>
    constructor
    · intro h
      cases h with
      | cons hs hh =>
        obtain ⟨c₂, h₃, h₄⟩ := ih.1 hh
        exact ⟨c₂, .cons hs h₃, h₄⟩
    · rintro ⟨c₂, h₃, h₄⟩
      cases h₃ with
      | cons hs hh => exact .cons hs (ih.2 ⟨c₂, hh, h₄⟩)

theorem History.landed_iff (hh : History signature limit c h c') :
    c'.landed = true ↔ c.landed = true ∨ .inl .landed ∈ h := by
  induction hh with
  | nil => simp
  | cons hs _ ih => rw [ih, hs.landed_iff, List.mem_cons, or_assoc, @eq_comm _ (Sum.inl Event.landed)]

theorem History.past (hh : History signature limit c h c') (hp : Past limit c) : Past limit c' := by
  induction hh with
  | nil => exact hp
  | cons hs _ ih => exact ih (hs.past hp)

theorem History.not_landed_of_past (hh : History signature limit c h c') (hp : Past limit c) :
    .inl .landed ∉ h := by
  induction hh with
  | nil => simp
  | cons hs _ ih =>
    rw [List.mem_cons, not_or]
    exact ⟨fun hm => hs.alive hm.symm hp, ih (hs.past hp)⟩

/-- Past its limit, a transaction is dead exactly if it has not landed. -/
theorem Past.dead_iff (hp : Past limit c) : Dead τ signature limit c ↔ c.landed = false := by
  constructor
  · exact fun hd => hd .nil
  · intro hl h c' hh
    rw [← Bool.not_eq_true, hh.landed_iff, hl]
    simpa using hh.not_landed_of_past hp

end

end Chain

namespace Confirmation

variable {τ : Type} [Seconds τ] {commitment : Commitment} {polling : Polling τ}
  {signature limit height : Json} {c c' : Chain} {t : List (Dialogue.Event τ)} {h : List (Moment τ)}

/-- Polling ended because the last answer, a block height, was past the limit. -/
def Expired (signature limit height : Json) (t : List (Dialogue.Event τ))
    (r : Except Failure Outcome) : Prop :=
  t.getLast? = some (.ledger (.height (.ok height))) ∧
    r = .error (.client (.stale (.expired signature limit height)))

omit [Seconds τ] in
theorem poll_ne_nil {r : Except Failure (Option Outcome)}
    (hrun : Run (poll Dialogue.host Dialogue.ledger commitment signature limit) t r) : t ≠ [] := by
  cases poll_run hrun with
  | status hs => rw [Dialogue.status_run.1 hs]; simp
  | height hs => rw [Dialogue.status_run.1 hs]; simp

omit [Seconds τ] in
/-- A transaction expires by two answers: the cluster does not have its status, and then the height
is past the limit. -/
theorem expired_poll
    (hrun : Run (poll Dialogue.host Dialogue.ledger commitment signature limit) t
      (.error (.client (.stale (.expired signature limit height)))))
    (hlast : t.getLast? = some (.ledger (.height (.ok height)))) :
    t = [.ledger (.status signature (.ok none)), .ledger (.height (.ok height))] ∧
      height.exceeds? limit = some true := by
  have hhosts : ∀ s : List (Dialogue.Event τ), Host.Only .host s →
      s.getLast? ≠ some (.ledger (.height (.ok height))) := by
    intro s hs hl
    obtain ⟨h, he⟩ := hs _ (List.mem_of_getLast? hl)
    cases he
  cases poll_run hrun with
  | @status _ t₂ _ _ hs ht hr =>
    obtain rfl := Dialogue.status_run.1 hs
    cases t₂ with
    | nil => cases hlast
    | cons e t₂ =>
      rw [List.getLast?_append_of_ne_nil _ (by simp)] at hlast
      exact absurd hlast (hhosts _ ht)
  | @height _ _ t₃ _ _ hs hh ht hr =>
    obtain rfl := Dialogue.status_run.1 hs
    obtain rfl := Dialogue.height_run.1 hh
    cases t₃ with
    | nil =>
      cases hlast
      refine ⟨rfl, ?_⟩
      have hf := (hr _).1 rfl
      rw [heightFault] at hf
      split at hf
      · cases hf
      · assumption
      · cases hf
    | cons e t₃ =>
      rw [← List.append_assoc, List.getLast?_append_of_ne_nil _ (by simp)] at hlast
      exact absurd hlast (hhosts _ ht)

theorem expired_dead_iff (hhistory : Chain.History signature limit c h c')
    {r : Except Failure Outcome}
    (hrun : Run (await Dialogue.host Dialogue.ledger commitment polling signature limit)
      (Moment.dialogue h) r)
    (hexpired : Expired signature limit height (Moment.dialogue h) r) :
    Chain.Dead τ signature limit c' ↔ .inl .landed ∉ Moment.sinceStatus h := by
  obtain ⟨hlast, rfl⟩ := hexpired
  obtain ⟨t₁, t₂, ht, hpoll⟩ := await_error hrun
  have hne : t₂ ≠ [] := poll_ne_nil hpoll
  rw [ht, List.getLast?_append_of_ne_nil _ hne] at hlast
  obtain ⟨rfl, hpast⟩ := expired_poll hpoll hlast
  obtain ⟨h₁, h₂, h₃, rfl, hh₂, hh₃⟩ := Moment.cut_of_dialogue ht
  have hsince : ∀ m ∈ h₂ ++ .inr (.ledger (.height (.ok height))) :: h₃, m.isStatus = false := by
    simp only [List.mem_append, List.mem_cons]
    rintro m (hm | rfl | hm)
    · obtain ⟨e, rfl⟩ := hh₂ m hm
      rfl
    · rfl
    · obtain ⟨e, rfl⟩ := hh₃ m hm
      rfl
  rw [Moment.sinceStatus_append h₁ rfl hsince]
  -- at the first answer the transaction has not landed
  obtain ⟨c₁, -, hh⟩ := Chain.History.append_iff.1 hhistory
  obtain _ | ⟨_ | _ | hnone, hh⟩ := hh
  -- at the second the chain is past the limit, and so it is in the end
  have hpast' : Chain.Past limit c' := by
    obtain ⟨c₂, -, hg⟩ := Chain.History.append_iff.1 hh
    obtain _ | ⟨_ | _ | hheight, hg⟩ := hg
    cases hheight
    exact hg.past hpast
  rw [hpast'.dead_iff, ← Bool.not_eq_true, hh.landed_iff, hnone rfl]
  simp

/-! ## The gap between the two answers -/

/-- The cluster does not have the status at height 100, the chain moves on, and the height is 101. -/
def gap (steps : List Chain.Event) : List (Moment ℚ) :=
  .inr (.host (.read 0)) :: .inr (.host (.read 0)) ::
    .inr (.ledger (.status (.text "signature") (.ok none))) ::
      (steps.map .inl ++ [.inr (.ledger (.height (.ok (.int 101))))])

theorem gap_dialogue (steps : List Chain.Event) :
    Moment.dialogue (gap steps) = [.host (.read 0), .host (.read 0),
      .ledger (.status (.text "signature") (.ok none)), .ledger (.height (.ok (.int 101)))] := by
  simp [Moment.dialogue, gap, Function.comp_def]

/-- Whatever the chain does in the gap, the transaction expires. -/
theorem gap_run (steps : List Chain.Event) :
    Run (await Dialogue.host Dialogue.ledger .confirmed (.every 60 1 5) (.text "signature")
      (.int 100)) (Moment.dialogue (gap steps))
      (.error (.client (.stale (.expired (.text "signature") (.int 100) (.int 101))))) := by
  rw [gap_dialogue]
  refine await_first every_rounds_ne_zero (by decide +kernel) ?_
  exact poll_of_height [_] [_] rfl rfl rfl rfl

theorem gap_expired (steps : List Chain.Event) :
    Expired (.text "signature") (.int 100) (.int 101) (Moment.dialogue (gap steps))
      (.error (.client (.stale (.expired (.text "signature") (.int 100) (.int 101))))) := by
  rw [gap_dialogue]
  exact ⟨rfl, rfl⟩

theorem gap_sinceStatus (steps : List Chain.Event) : Moment.sinceStatus (gap steps) =
    steps.map .inl ++ [.inr (.ledger (.height (.ok (.int 101))))] := by
  refine Moment.sinceStatus_append [_, _] rfl fun m hm => ?_
  rcases List.mem_append.1 hm with hm | hm
  · obtain ⟨e, -, rfl⟩ := List.mem_map.1 hm
    rfl
  · rw [List.mem_singleton.1 hm]
    rfl

/-- If the chain only grows in the gap, the transaction is dead. -/
theorem dead_of_grown_gap :
    Chain.History (.text "signature") (.int 100) ⟨100, false⟩ (gap [.grew 101]) ⟨101, false⟩ ∧
      Chain.Dead ℚ (.text "signature") (.int 100) ⟨101, false⟩ := by
  have hh : Chain.History (.text "signature") (.int 100) ⟨100, false⟩ (gap [.grew 101])
      ⟨101, false⟩ :=
    .cons (.answered trivial) <| .cons (.answered trivial) <| .cons (.answered fun _ => rfl) <|
      .cons (.grew (by decide)) <| .cons (.answered rfl) .nil
  refine ⟨hh, (expired_dead_iff hh (gap_run _) (gap_expired _)).2 ?_⟩
  rw [gap_sinceStatus]
  simp

/-- If it lands in the gap, the client takes it for dead all the same. -/
theorem landed_between_answers :
    Chain.History (.text "signature") (.int 100) ⟨100, false⟩ (gap [.landed, .grew 101])
        ⟨101, true⟩ ∧
      Run (await Dialogue.host Dialogue.ledger .confirmed (.every 60 1 5) (.text "signature")
        (.int 100)) (Moment.dialogue (gap [.landed, .grew 101]))
        (.error (.client (.stale (.expired (.text "signature") (.int 100) (.int 101))))) ∧
      Expired (.text "signature") (.int 100) (.int 101)
        (Moment.dialogue (gap [.landed, .grew 101]))
        (.error (.client (.stale (.expired (.text "signature") (.int 100) (.int 101))))) ∧
      ¬ Chain.Dead ℚ (.text "signature") (.int 100) ⟨101, true⟩ := by
  refine ⟨?_, gap_run _, gap_expired _, fun hd => ?_⟩
  · exact .cons (.answered trivial) <| .cons (.answered trivial) <| .cons (.answered fun _ => rfl) <|
      .cons (.landed rfl (by simp [Chain.exceeds_int, Json.magnitude?, Json.Magnitude.exceeds])) <|
        .cons (.grew (by decide)) <| .cons (.answered rfl) .nil
  · cases hd .nil

end Confirmation
end StorageAgent
