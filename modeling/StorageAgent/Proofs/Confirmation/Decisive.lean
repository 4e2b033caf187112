import StorageAgent.Proofs.Confirmation.Dialogue
import StorageAgent.Proofs.Confirmation.Rounds
import StorageAgent.Proofs.Endpoint.Legible
import StorageAgent.Proofs.Seconds

/-!
# The first decisive answer

Polling asks for the status of a transaction and, if the cluster does not have it, for the block
height. An answer is decisive if it tells that the transaction failed, that it reached the
commitment level, or that the height has passed the last one at which it could land. The first
decisive answer is the last one that is asked for, and it alone decides.

* `poll_told`: what one poll asks, and what it makes of the answers.
* `first_decisive`: how polling ends.
-/
namespace StorageAgent.Confirmation

open Behaviour

/-- The last block height at which a transaction can land, null if it is not known. -/
def limitValue : Option Int → Json
  | none => .null
  | some n => .int n

/-- A transport error instead of an answer. -/
def unanswered {α β : Type} (tell : α → β) : Except TransportFault α → Except Failure β
  | .ok a => .ok (tell a)
  | .error fault => .error (.client (.transport fault))

theorem unanswered_eq_ok {α β : Type} {tell : α → β} {told : Except TransportFault α} {b : β}
    (h : .ok b = unanswered tell told) : ∃ a, told = .ok a ∧ b = tell a := by
  cases told with
  | ok a =>
    cases h
    exact ⟨a, rfl, rfl⟩
  | error fault => cases h

theorem unanswered_eq_error {α β : Type} {tell : α → β} {told : Except TransportFault α} {f : Failure}
    (h : .error f = unanswered tell told) :
    ∃ fault, told = .error fault ∧ f = .client (.transport fault) := by
  cases told with
  | ok a => cases h
  | error fault =>
    cases h
    exact ⟨fault, rfl, rfl⟩

/-- What a poll is told: the status, and the block height if it asks for it. -/
structure Told where
  status : Except TransportFault (Option SignatureStatus)
  height : Option (Except TransportFault Int)

namespace Told

instance : Inhabited Told := ⟨⟨.ok none, none⟩⟩

/-- The questions of a poll and their answers. -/
def calls (signature : Json) (a : Told) : List Ledger.Event :=
  .status signature (unanswered id a.status) ::
    a.height.toList.map fun height => .height (unanswered .int height)

/-- The height is asked for exactly if the cluster does not have the status and the limit is
known. -/
def Asked (limit : Option Int) (a : Told) : Prop :=
  a.height ≠ none ↔ a.status = .ok none ∧ limit ≠ none

/-- The transaction failed, it reached the level, or it is not seen and cannot land any more. -/
def Decisive (commitment : Commitment) (limit : Option Int) (a : Told) : Prop :=
  (∃ status, a.status = .ok (some status) ∧
      (status.err ≠ .null ∨ status.reaches commitment = true)) ∨
    ∃ last height, a.status = .ok none ∧ limit = some last ∧ a.height = some (.ok height) ∧
      last < height

/-- What a decisive answer decides. A failure comes before the level. -/
inductive Decides (commitment : Commitment) (signature : Json) (limit : Option Int) :
    Told → Except Failure Outcome → Prop where
  | failed {status : SignatureStatus} {height : Option (Except TransportFault Int)}
      {rejection : Rejection} {errorText : Option String} (herr : status.err ≠ .null)
      (hreason : rejection.reason = status.err) (hsignature : rejection.signature = signature) :
      Decides commitment signature limit ⟨.ok (some status), height⟩
        (.ok { signature, verdict := .failed, slot := status.slot, errorText
               rejection := some rejection })
  | confirmed {status : SignatureStatus} {height : Option (Except TransportFault Int)}
      (herr : status.err = .null) (hreaches : status.reaches commitment = true) :
      Decides commitment signature limit ⟨.ok (some status), height⟩
        (.ok { signature, verdict := .confirmed, slot := status.slot })
  | expired {last height : Int} (hlimit : limit = some last) (hpast : last < height) :
      Decides commitment signature limit ⟨.ok none, some (.ok height)⟩
        (.error (.client (.stale (.expired signature (.int last) (.int height)))))

variable {commitment : Commitment} {signature : Json} {limit : Option Int} {a : Told}
  {r : Except Failure Outcome}

theorem Decides.decisive (h : a.Decides commitment signature limit r) :
    a.Decisive commitment limit := by
  cases h with
  | failed herr => exact .inl ⟨_, rfl, .inl herr⟩
  | confirmed _ hreaches => exact .inl ⟨_, rfl, .inr hreaches⟩
  | expired hlimit hpast => exact .inr ⟨_, _, rfl, hlimit, rfl, hpast⟩

theorem Decides.known (h : a.Decides commitment signature limit r) :
    ∀ o, r = .ok o → o.verdict ≠ .unknown := by
  rintro o rfl
  cases h with
  | failed => exact nofun
  | confirmed => exact nofun

end Told

/-- An answer is a status whose error is told in a known way, no status, an integer height, or a
transport error. -/
def Regular {τ : Type} : Dialogue.Event τ → Prop
  | .ledger (.status _ answer) => ∃ told, answer = unanswered id told ∧
      ∀ status, told = .ok (some status) → status.err.NamesFault
  | .ledger (.height answer) => ∃ told, answer = unanswered .int told
  | _ => True

/-! ## One poll -/

variable {τ : Type} {commitment : Commitment} {signature : Json} {limit : Option Int}
  {t : List (Dialogue.Event τ)}

/-- What a poll makes of its answers. -/
def Makes (commitment : Commitment) (signature : Json) (limit : Option Int) (a : Told)
    (r : Except Failure (Option Outcome)) : Prop :=
  (∃ r', r = r'.map some ∧ a.Decides commitment signature limit r') ∨
    r = .ok none ∧ ¬ a.Decisive commitment limit

theorem Makes.not_decisive {a : Told} (h : Makes commitment signature limit a (.ok none)) :
    ¬ a.Decisive commitment limit := by
  obtain ⟨r, hr, -⟩ | ⟨-, hundecided⟩ := h
  · cases r <;> cases hr
  · exact hundecided

theorem Makes.decides {a : Told} {r : Except Failure Outcome}
    (h : Makes commitment signature limit a (r.map some)) :
    a.Decides commitment signature limit r := by
  obtain ⟨r', hr, hdecides⟩ | ⟨hr, -⟩ := h
  · obtain rfl : r = r' := by
      cases r <;> cases r' <;> cases hr <;> rfl
    exact hdecides
  · cases r <;> cases hr

/-- A status whose error can be read is decisive if there is an error, or else by its level. -/
theorem decided_makes {status : SignatureStatus} (hnamed : status.err.NamesFault)
    {r : Except Failure (Option Outcome)}
    (h : Run (decided Dialogue.host commitment signature status) t r) :
    Makes commitment signature limit ⟨.ok (some status), none⟩ r := by
  rw [decided] at h
  cases hfailed : status.failed with
  | true =>
    have herr : status.err ≠ .null := by
      intro hnull
      rw [SignatureStatus.failed, hnull] at hfailed
      cases hfailed
    obtain ⟨told, htold⟩ := TransactionError.ofJson_isOk_iff.2 hnamed
    rw [if_pos hfailed, Rejection.ofTransactionError, htold] at h
    obtain ⟨_, rejection, _, ⟨rfl, hread⟩, hreport, rfl⟩ | ⟨_, ⟨-, hread⟩, -⟩ := run_bind.1 h
    · cases hread
      obtain ⟨_, -, _, rfl, hpure, rfl⟩ := run_lift_bind.1 hreport
      obtain ⟨rfl, rfl⟩ := run_pure.1 hpure
      exact .inl ⟨.ok _, rfl, .failed herr rfl rfl⟩
    · cases hread
  | false =>
    have herr : status.err = .null := by
      simpa [SignatureStatus.failed, Json.isNull_iff] using hfailed
    rw [if_neg (by rw [hfailed]; decide)] at h
    cases hreaches : status.reaches commitment with
    | true =>
      rw [if_pos hreaches] at h
      obtain ⟨_, -, _, rfl, hpure, rfl⟩ := run_lift_bind.1 h
      obtain ⟨rfl, rfl⟩ := run_pure.1 hpure
      exact .inl ⟨.ok _, rfl, .confirmed herr hreaches⟩
    | false =>
      rw [if_neg (by rw [hreaches]; decide)] at h
      obtain ⟨rfl, rfl⟩ := run_pure.1 h
      refine .inr ⟨rfl, ?_⟩
      simp [Told.Decisive, herr, hreaches]

theorem exceeds?_int (a b : Int) : (Json.int a).exceeds? (.int b) = some (decide (b < a)) := by
  simp [Json.exceeds?, Json.magnitude?, Json.Magnitude.exceeds]

/-- If the cluster does not have the status, an integer height past the limit is decisive. -/
theorem expiry_makes {last : Int} {r : Except Failure Unit}
    (hregular : ∀ e ∈ t, Regular e)
    (h : Run (checkExpiry Dialogue.host Dialogue.ledger signature (.int last)) t r) :
    ∃ told t', t = .ledger (.height (unanswered .int told)) :: t' ∧ Host.Only .host t' ∧
      Makes commitment signature (some last) ⟨.ok none, some told⟩ (r.map fun _ => none) := by
  obtain ⟨_, t', answer, hheight, honly, rfl, hr⟩ := checkExpiry_run h
  obtain rfl := Dialogue.height_run.1 hheight
  obtain ⟨told, rfl⟩ := hregular (.ledger (.height answer)) (by simp)
  refine ⟨told, t', rfl, honly, ?_⟩
  cases told with
  | error fault =>
    cases r with
    | error f => cases (hr f).1 rfl
    | ok => exact .inr ⟨rfl, by simp [Told.Decisive]⟩
  | ok height =>
    by_cases hpast : last < height
    · have hfault : heightFault signature (.int last) (.ok (.int height)) =
          some (.client (.stale (.expired signature (.int last) (.int height)))) := by
        simp [heightFault, exceeds?_int, hpast]
      obtain rfl := (hr _).2 hfault
      exact .inl ⟨.error _, rfl, .expired rfl hpast⟩
    · cases r with
      | error f =>
        have hfault := (hr f).1 rfl
        simp [unanswered, heightFault, exceeds?_int, hpast] at hfault
      | ok => exact .inr ⟨rfl, by simpa [Told.Decisive] using hpast⟩

/-- A poll asks for the status and, if the cluster does not have it and the limit is known, for the
height. -/
theorem poll_told {r : Except Failure (Option Outcome)} (hregular : ∀ e ∈ t, Regular e)
    (h : Run (poll Dialogue.host Dialogue.ledger commitment signature (limitValue limit)) t r) :
    ∃ (a : Told) (t' : List (Dialogue.Event τ)), t = (a.calls signature).map .ledger ++ t' ∧
      Host.Only .host t' ∧ a.Asked limit ∧ Makes commitment signature limit a r := by
  have hstatus : ∀ {answer : Except Failure (Option SignatureStatus)} {t₁ : List (Dialogue.Event τ)},
      Run (Dialogue.ledger.status signature) t₁ answer → (∀ e ∈ t₁, Regular e) → ∃ told,
        answer = unanswered id told ∧ t₁ = [.ledger (.status signature (unanswered id told))] ∧
          ∀ status, told = .ok (some status) → status.err.NamesFault := by
    intro answer t₁ hrun hregular
    obtain rfl := Dialogue.status_run.1 hrun
    obtain ⟨told, rfl, hnamed⟩ := hregular (.ledger (.status signature answer)) (by simp)
    exact ⟨told, rfl, rfl, hnamed⟩
  obtain ⟨t₁, answer, t₂, hask, hnext, rfl⟩ | ⟨f, hask, rfl⟩ := run_bind.1 h
  · obtain ⟨hregular₁, hregular₂⟩ := List.forall_mem_append.1 hregular
    obtain ⟨seen, hrun, hseen⟩ | ⟨t₀, fault, hrun, rfl, hseen⟩ | ⟨_, -, -, hseen⟩ :=
      tolerate_run.1 hask
    · cases hseen
      obtain ⟨told, htold, rfl, hnamed⟩ := hstatus hrun hregular₁
      obtain ⟨_, rfl, rfl⟩ := unanswered_eq_ok htold
      cases seen with
      | some status =>
        refine ⟨⟨.ok (some status), none⟩, t₂, rfl, (decided_run hnext).1, by simp [Told.Asked], ?_⟩
        exact decided_makes (hnamed status rfl) hnext
      | none =>
        dsimp only [id] at hnext
        cases limit with
        | none =>
          obtain ⟨rfl, rfl⟩ := run_pure.1 hnext
          refine ⟨⟨.ok none, none⟩, [], rfl, .nil, by simp [Told.Asked], .inr ⟨rfl, ?_⟩⟩
          simp [Told.Decisive]
        | some last =>
          rw [if_neg (by simp [limitValue, Json.isNull])] at hnext
          obtain ⟨x, hexpiry, hr⟩ : ∃ x,
              Run (checkExpiry Dialogue.host Dialogue.ledger signature (.int last)) t₂ x ∧
                r = x.map fun _ => none := by
            obtain ⟨t₃, u, _, hexpiry, hpure, rfl⟩ | ⟨f, hexpiry, rfl⟩ := run_bind.1 hnext
            · obtain ⟨rfl, rfl⟩ := run_pure.1 hpure
              rw [List.append_nil]
              exact ⟨.ok u, hexpiry, rfl⟩
            · exact ⟨.error f, hexpiry, rfl⟩
          obtain ⟨told, t', rfl, honly, hmakes⟩ := expiry_makes hregular₂ hexpiry
          rw [← hr] at hmakes
          exact ⟨⟨.ok none, some told⟩, t', rfl, honly, by simp [Told.Asked], hmakes⟩
    · cases hseen
      obtain ⟨rfl, rfl⟩ := run_pure.1 hnext
      obtain ⟨told, htold, rfl, -⟩ := hstatus hrun (List.forall_mem_append.1 hregular₁).1
      obtain ⟨fault', rfl, -⟩ := unanswered_eq_error htold
      refine ⟨⟨.error fault', none⟩, _, List.append_nil _, Host.Only.nil.cons, ?_, .inr ⟨rfl, ?_⟩⟩
      · simp [Told.Asked]
      · simp [Told.Decisive]
    · cases hseen
  · obtain ⟨_, -, hseen⟩ | ⟨_, _, -, -, hseen⟩ | ⟨_, hrun, hpassing, hseen⟩ := tolerate_run.1 hask
    · cases hseen
    · cases hseen
    · -- an answer that is no transport error is regular, and ends nothing by itself
      cases hseen
      obtain ⟨told, htold, -, -⟩ := hstatus hrun hregular
      obtain ⟨_, -, rfl⟩ := unanswered_eq_error htold
      cases hpassing

/-! ## All polls -/

/-- The first decisive answer ends polling. -/
structure Concluded [Seconds τ] (commitment : Commitment) (polling : Polling τ) (signature : Json)
    (limit : Option Int) (t : List (Dialogue.Event τ)) (r : Except Failure Outcome)
    (answers : List Told) : Prop where
  /-- These are all the answers. -/
  calls : Dialogue.calls t = answers.flatMap (Told.calls signature)
  /-- The height is asked for where the cluster does not have the status, and nowhere else. -/
  asked : ∀ a ∈ answers, a.Asked limit
  /-- Each poll begins before the timeout. -/
  begun : ∃ start, t.head? = some (.host (.read start)) ∧ ∀ a ∈ answers, ∃ now,
    InTime polling start now ∧ (.host (.read now) :: (a.calls signature).map .ledger) <:+: t
  /-- Only the last answer can be decisive. -/
  first : ∀ a ∈ answers.dropLast, ¬ a.Decisive commitment limit
  /-- A decisive answer decides. -/
  decided : ∀ a ∈ answers, a.Decisive commitment limit → a.Decides commitment signature limit r
  /-- Without a decisive answer the outcome is unknown. -/
  unknown : (∃ o, r = .ok o ∧ o.verdict = .unknown) ↔
    ∀ a ∈ answers, ¬ a.Decisive commitment limit

/-- Polling for a minute, twice at most. -/
def twice : Polling ℚ := ⟨60, 1, 5, 2⟩

/-- A transaction that reached the level in slot 7. -/
def landed : SignatureStatus := ⟨.int 7, .null, .text "confirmed", .null⟩

/-- The cluster has no status at height 100, the last at which the transaction can land, and a second
later tells that it landed. -/
def landing : List (Dialogue.Event ℚ) :=
  [.host (.read 0), .host (.read 0), .ledger (.status (.text "signature") (.ok none)),
    .ledger (.height (.ok (.int 100))), .host (.read 0), .host (.slept 1), .host (.read 1),
    .ledger (.status (.text "signature") (.ok (some landed))),
    .host (.logged (line .info "Transaction signature reached confirmed in slot 7"))]

theorem landing_regular : ∀ e ∈ landing, Regular e := by
  have hmissing : Regular (τ := ℚ) (.ledger (.status (.text "signature") (.ok none))) :=
    ⟨.ok none, rfl, nofun⟩
  have hlanded : Regular (τ := ℚ) (.ledger (.status (.text "signature") (.ok (some landed)))) := by
    refine ⟨.ok (some landed), rfl, ?_⟩
    rintro _ ⟨⟩
    exact nofun
  have hheight : Regular (τ := ℚ) (.ledger (.height (.ok (.int 100)))) := ⟨.ok 100, rfl⟩
  simp only [landing, List.forall_mem_cons]
  exact ⟨trivial, trivial, hmissing, hheight, trivial, trivial, trivial, hlanded, trivial, nofun⟩

theorem landing_run : Run (await Dialogue.host Dialogue.ledger .confirmed twice (.text "signature")
    (limitValue (some 100))) landing
    (.ok { signature := .text "signature", verdict := .confirmed, slot := .int 7 }) := by
  have hfirst : Run (poll Dialogue.host (Dialogue.ledger (τ := ℚ)) .confirmed (.text "signature")
      (limitValue (some 100))) _ _ := poll_of_alive [_] [_] rfl rfl rfl (exceeds?_int 100 100)
  have hsecond : Run (poll Dialogue.host (Dialogue.ledger (τ := ℚ)) .confirmed (.text "signature")
      (limitValue (some 100))) _ _ := poll_of_status landed [_] rfl (decided_of_reached rfl rfl)
  have hbegun : InTime twice 0 0 := by
    unfold InTime
    decide +kernel
  have hmore : ¬ Over twice 0 0 := by
    unfold Over
    decide +kernel
  have hpause : Seconds.least (1 : ℚ) (remaining twice 0 0) = 1 := by decide +kernel
  have hlater : InTime twice 0 1 := by
    unfold InTime
    decide +kernel
  have hlast : Rounds False .host Dialogue.ledger .confirmed twice (.text "signature")
      (limitValue (some 100)) 0 1 (twice.grow 1) _ _ (.ok _) := .decided hlater hsecond
  have hrounds := Rounds.again hbegun hfirst hmore hlast
  rw [hpause] at hrounds
  exact await_iff.2 ⟨0, _, _, rfl, hrounds⟩

end StorageAgent.Confirmation
