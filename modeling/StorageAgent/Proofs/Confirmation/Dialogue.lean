import StorageAgent.Proofs.Confirmation.Polling

/-!
# Dialogues with a ledger

A dialogue is a run of the client with a machine and a ledger that may answer
anything. Its trace tells each question with its answer, at the moment of that
answer: what the client does with the answer, and how long it waits before the
next question, comes behind it.

* `send_run`, `submit_cases`: how sending an envelope ends, and what follows it.
-/
namespace StorageAgent

open Behaviour

/-- What a ledger was asked for, and what it answered. -/
inductive Ledger.Event where
  | checkpoint (answer : Except Failure Checkpoint)
  | sent (raw : Bytes) (answer : Except Failure Json)
  | status (signature : Json) (answer : Except Failure (Option SignatureStatus))
  | height (answer : Except Failure Json)
  | account (address : Address) (answer : Except Failure (Option Bytes))

/-- A ledger that may answer anything. -/
def Ledger.free {ε : Type} (event : Ledger.Event → ε) : Ledger (Behaviour ε) where
  latestBlockhash := .mk (.answered fun answer => event (.checkpoint answer))
  send raw := .mk (.answered fun answer => event (.sent raw answer))
  status signature := .mk (.answered fun answer => event (.status signature answer))
  height := .mk (.answered fun answer => event (.height answer))
  account address := .mk (.answered fun answer => event (.account address answer))

/-- What happens in a dialogue. -/
inductive Dialogue.Event (τ : Type) where
  | host (event : Host.Event τ)
  | ledger (event : Ledger.Event)

namespace Dialogue

variable {τ : Type}

/-- The machine of a dialogue. -/
def host : Host (Behaviour (Event τ)) τ := .free .host

/-- The ledger of a dialogue. -/
def ledger : Ledger (Behaviour (Event τ)) := .free .ledger

theorem send_run {raw : Bytes} {t : List (Event τ)} {answer : Except Failure Json} :
    Run (ledger.send raw) t answer ↔ t = [.ledger (.sent raw answer)] := Iff.rfl

theorem status_run {signature : Json} {t : List (Event τ)}
    {answer : Except Failure (Option SignatureStatus)} :
    Run (ledger.status signature) t answer ↔ t = [.ledger (.status signature answer)] := Iff.rfl

theorem height_run {t : List (Event τ)} {answer : Except Failure Json} :
    Run ledger.height t answer ↔ t = [.ledger (.height answer)] := Iff.rfl

/-! ## Calls to the ledger -/

variable {t : List (Event τ)}

/-- The calls to the ledger among what happened, in their order. -/
def calls (t : List (Event τ)) : List Ledger.Event :=
  t.filterMap fun
    | .ledger e => some e
    | .host _ => none

@[simp] theorem calls_nil : calls ([] : List (Event τ)) = [] := rfl

@[simp] theorem calls_ledger (e : Ledger.Event) (t : List (Event τ)) :
    calls (.ledger e :: t) = e :: calls t := rfl

@[simp] theorem calls_host (e : Host.Event τ) (t : List (Event τ)) :
    calls (.host e :: t) = calls t := rfl

@[simp] theorem calls_append (t₁ t₂ : List (Event τ)) : calls (t₁ ++ t₂) = calls t₁ ++ calls t₂ :=
  List.filterMap_append

theorem calls_map_ledger (l : List Ledger.Event) : calls (l.map (Event.ledger (τ := τ))) = l := by
  induction l with
  | nil => rfl
  | cons e l ih => rw [List.map_cons, calls_ledger, ih]

theorem calls_of_only (h : Host.Only Event.host t) : calls t = [] := by
  rw [calls, List.filterMap_eq_nil_iff]
  intro e he
  obtain ⟨_, rfl⟩ := h e he
  rfl

end Dialogue

namespace Confirmation

variable {ε τ : Type} {event : Host.Event τ → ε} {ledger : Ledger (Behaviour ε)}
  {commitment : Commitment} {polling : Polling τ} {signature limit : Json} {envelope : Envelope}

/-! ## Sending -/

/-- How sending an envelope ends. Polling goes on with a signature if the ledger accepts the
envelope, and if it has processed it before. -/
inductive Sent (event : Host.Event τ → ε) (ledger : Ledger (Behaviour ε)) (envelope : Envelope) :
    List ε → Except Failure Json → Prop where
  | accepted {t : List ε} {signature : Json} (h : Run (ledger.send envelope.raw) t (.ok signature)) :
      Sent event ledger envelope t (.ok signature)
  | processed {t : List ε} {rejection : Rejection} {line : Log.Line}
      (h : Run (ledger.send envelope.raw) t (.error (.client (.rejected rejection))))
      (hp : rejection.alreadyProcessed = true) :
      Sent event ledger envelope (t ++ [event (.logged line)]) (.ok (.text envelope.signature))
  | refused {t : List ε} {f : Failure} (h : Run (ledger.send envelope.raw) t (.error f))
      (hn : ∀ rejection, f = .client (.rejected rejection) → rejection.alreadyProcessed = false) :
      Sent event ledger envelope t (.error f)

theorem send_run {t : List ε} {r : Except Failure Json}
    (h : Run (send (.free event) ledger envelope) t r) : Sent event ledger envelope t r := by
  rw [send, run_mk, bind_iff] at h
  obtain ⟨t₁, answer, t₂, h₁, h₂, rfl⟩ := h
  split at h₂
  · rename_i rejection
    cases hp : rejection.alreadyProcessed with
    | true =>
      rw [if_pos hp] at h₂
      obtain ⟨_, -, _, rfl, ⟨rfl, rfl⟩, rfl⟩ := bind_iff.1 h₂
      exact .processed h₁ hp
    | false =>
      rw [if_neg (by rw [hp]; decide)] at h₂
      obtain ⟨rfl, rfl⟩ := pure_iff.1 h₂
      rw [List.append_nil]
      refine .refused h₁ ?_
      rintro _ ⟨⟩
      exact hp
  · rename_i hn
    obtain ⟨rfl, rfl⟩ := pure_iff.1 h₂
    rw [List.append_nil]
    cases r with
    | ok signature => exact .accepted h₁
    | error f => exact .refused h₁ fun rejection hf => (hn rejection (by rw [hf])).elim

/-- Submitting fails with sending, or polls for the signature that sending gave. In between there are
reports. -/
theorem submit_cases [Seconds τ] {t : List ε} {r : Except Failure Outcome}
    (h : Run (submit (.free event) ledger commitment polling envelope) t r) :
    (∃ f, Sent event ledger envelope t (.error f) ∧ r = .error f) ∨
      ∃ t₁ signature t₃, ∃ lines : List Log.Line, Sent event ledger envelope t₁ (.ok signature) ∧
        t = t₁ ++ (lines.map (fun line => event (.logged line)) ++ t₃) ∧
        Run (await (.free event) ledger commitment polling signature
          envelope.checkpoint.lastValidHeight) t₃ r := by
  rcases run_bind.1 h with ⟨t₁, signature, t₂, h₁, h₂, rfl⟩ | ⟨f, h₁, rfl⟩
  · refine .inr ⟨t₁, signature, ?_⟩
    dsimp only at h₂
    split at h₂
    · obtain ⟨_, -, _, rfl, h₃, rfl⟩ := run_lift_bind.1 h₂
      obtain ⟨_, -, _, rfl, h₄, rfl⟩ := run_lift_bind.1 h₃
      exact ⟨_, [_, _], send_run h₁, rfl, h₄⟩
    · obtain ⟨_, -, _, rfl, h₃, rfl⟩ := run_lift_bind.1 h₂
      exact ⟨_, [_], send_run h₁, rfl, h₃⟩
  · exact .inl ⟨f, send_run h₁, rfl⟩

theorem submit_run [Seconds τ] {t : List ε} {r : Except Failure Outcome}
    (h : Run (submit (.free event) ledger commitment polling envelope) t r) :
    (∃ f, Sent event ledger envelope t (.error f) ∧ r = .error f) ∨
      ∃ t₁ signature t₂ t₃, Sent event ledger envelope t₁ (.ok signature) ∧
        Host.Only event t₂ ∧ t = t₁ ++ (t₂ ++ t₃) ∧
        Run (await (.free event) ledger commitment polling signature
          envelope.checkpoint.lastValidHeight) t₃ r := by
  rcases submit_cases h with hrefused | ⟨t₁, signature, t₃, lines, hsent, rfl, hawait⟩
  · exact .inl hrefused
  · refine .inr ⟨t₁, signature, _, t₃, hsent, ?_, rfl, hawait⟩
    intro e he
    obtain ⟨line, -, rfl⟩ := List.mem_map.1 he
    exact ⟨_, rfl⟩

/-! ## Building runs -/

/-- An envelope that is valid up to height 100. -/
def shortLived : Envelope := ⟨[1, 2], "signature", ⟨none, .int 100⟩⟩

theorem send_of_accepted {t : List ε} {signature : Json}
    (h : Run (ledger.send envelope.raw) t (.ok signature)) :
    Run (send (.free event) ledger envelope) t (.ok signature) :=
  ⟨t, .ok signature, [], h, ⟨rfl, rfl⟩, by simp⟩

theorem send_of_processed {t : List ε} {rejection : Rejection}
    (h : Run (ledger.send envelope.raw) t (.error (.client (.rejected rejection))))
    (hp : rejection.alreadyProcessed = true) :
    Run (send (.free event) ledger envelope)
      (t ++ [event (.logged (line .info
        s!"Transaction {envelope.signature} already processed, polling its status"))])
      (.ok (.text envelope.signature)) := by
  refine ⟨t, _, _, h, ?_, rfl⟩
  dsimp only
  rw [if_pos hp]
  exact ⟨_, (), [], rfl, ⟨rfl, rfl⟩, rfl⟩

theorem submit_of_signature [Seconds τ] (t₁ : List ε) {t₂ : List ε} {r : Except Failure Outcome}
    (hs : Run (send (.free event) ledger envelope) t₁ (.ok (.text envelope.signature)))
    (ha : Run (await (.free event) ledger commitment polling (.text envelope.signature)
      envelope.checkpoint.lastValidHeight) t₂ r) :
    Run (submit (.free event) ledger commitment polling envelope)
      (t₁ ++ event (.logged (line .info
        s!"Sent transaction {(Json.text envelope.signature).display}")) :: t₂) r := by
  refine run_bind.2 (.inl ⟨t₁, _, _, hs, ?_, rfl⟩)
  dsimp only
  rw [isText, beq_self_eq_true, if_neg (by decide)]
  exact run_lift_bind.2 ⟨[_], (), t₂, rfl, ha, rfl⟩

end Confirmation
end StorageAgent
