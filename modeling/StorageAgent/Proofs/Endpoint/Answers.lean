import Mathlib.Data.List.DropRight
import StorageAgent.Proofs.Endpoint.Reading

/-!
# Answers in a trace

A trace of the wire tells what the client asked and what it was answered: each request with its
reply, and what the client makes of the reply. A call sends its request again as long as the answer
may be another the next time, so what counts is the last answer.

* `answers`: the answers to the requests of a method, each with what was asked. `checkpoints`,
  `receipts`, `statuses` and `heights` are those of the four methods of a submission.
* `Heard`, `call_heard`: the answers in the trace of one call.
-/
namespace StorageAgent

open Behaviour

namespace Wire

variable {τ α : Type} {config : SessionConfig τ} {method : String}
  {read : Json → Except Failure α}

/-- The answers to the requests of a method, each with the parameters of its request. -/
def answers (config : SessionConfig τ) (method : String) (read : Json → Except Failure α)
    (t : List (Event τ)) : List (List Json × Except Failure α) :=
  t.filterMap fun
    | .transport (.posted request reply) =>
      if request.method = method then some (request.params, reply.taken config method >>= read)
      else none
    | _ => none

/-- The times that the clock told. -/
def times (t : List (Event τ)) : List τ :=
  t.filterMap fun
    | .host (.read time) => some time
    | _ => none

@[simp]
theorem answers_nil : answers config method read ([] : List (Event τ)) = [] := rfl

@[simp]
theorem answers_append (t₁ t₂ : List (Event τ)) : answers config method read (t₁ ++ t₂) =
    answers config method read t₁ ++ answers config method read t₂ :=
  List.filterMap_append

@[simp]
theorem times_nil : times ([] : List (Event τ)) = [] := rfl

@[simp]
theorem times_append (t₁ t₂ : List (Event τ)) : times (t₁ ++ t₂) = times t₁ ++ times t₂ :=
  List.filterMap_append

/-- The last answer of the later part is the last of all. -/
theorem getLast?_answers_append {t₁ t₂ : List (Event τ)} {b : List Json × Except Failure α}
    (h : (answers config method read t₂).getLast? = some b) :
    (answers config method read (t₁ ++ t₂)).getLast? = some b := by
  rw [answers_append, List.getLast?_append, h]
  rfl

theorem mem_answers {t : List (Event τ)} {b : List Json × Except Failure α} :
    b ∈ answers config method read t ↔ ∃ request reply,
      .transport (.posted request reply) ∈ t ∧ request.method = method ∧
        b = (request.params, reply.taken config method >>= read) := by
  rw [answers, List.mem_filterMap]
  constructor
  · intro ⟨e, he, hb⟩
    split at hb
    · split at hb
      · next hm =>
        cases hb
        exact ⟨_, _, he, hm, rfl⟩
      · cases hb
    · cases hb
  · intro ⟨request, reply, he, hm, hb⟩
    exact ⟨_, he, by simp [hm, hb]⟩

/-- Where no request of the method was sent, there is no answer. -/
theorem answers_eq_nil {t : List (Event τ)}
    (h : ∀ request reply, .transport (.posted request reply) ∈ t → request.method ≠ method) :
    answers config method read t = [] := by
  refine List.eq_nil_iff_forall_not_mem.2 fun b hb => ?_
  obtain ⟨request, reply, he, hm, -⟩ := mem_answers.1 hb
  exact h request reply he hm

theorem answers_of_host {t : List (Event τ)} (ht : Host.Only .host t) :
    answers config method read t = [] := by
  refine answers_eq_nil fun request reply he => ?_
  obtain ⟨h, hh⟩ := ht _ he
  cases hh

/-- What was answered about block hashes. -/
abbrev checkpoints (config : SessionConfig τ) (t : List (Event τ)) :
    List (List Json × Except Failure Checkpoint) :=
  answers config "getLatestBlockhash" Result.checkpoint t

/-- What was answered to transactions. -/
abbrev receipts (config : SessionConfig τ) (t : List (Event τ)) :
    List (List Json × Except Failure Json) :=
  answers config "sendTransaction" Result.signature t

/-- What was answered about signatures. -/
abbrev statuses (config : SessionConfig τ) (t : List (Event τ)) :
    List (List Json × Except Failure (Option SignatureStatus)) :=
  answers config "getSignatureStatuses" Result.status t

/-- What was answered about the block height. -/
abbrev heights (config : SessionConfig τ) (t : List (Event τ)) :
    List (List Json × Except Failure Json) :=
  answers config "getBlockHeight" Result.height t

/-- A question is about one signature. -/
def About (signature : Json) (params : List Json) : Prop := params.head? = some (.list [signature])

/-! ## Since the last block hash -/

/-- Whether a block hash was asked for. -/
def asksCheckpoint : Event τ → Bool
  | .transport (.posted request _) => request.method == "getLatestBlockhash"
  | _ => false

/-- What happened after the last request for a block hash. -/
def sinceCheckpoint (t : List (Event τ)) : List (Event τ) := t.rtakeWhile fun e => !asksCheckpoint e

/-- Of the answers in a trace, those since the last request for a block hash come last. -/
theorem exists_append_sinceCheckpoint (t : List (Event τ)) : ∃ s, s ++ sinceCheckpoint t = t :=
  List.rtakeWhile_suffix _ _

theorem answers_sinceCheckpoint_eq_nil {t : List (Event τ)}
    (h : answers config method read t = []) :
    answers config method read (sinceCheckpoint t) = [] := by
  obtain ⟨s, hs⟩ := exists_append_sinceCheckpoint t
  rw [← hs, answers_append] at h
  exact (List.append_eq_nil_iff.1 h).2

theorem times_sinceCheckpoint_eq_nil {t : List (Event τ)} (h : times t = []) :
    times (sinceCheckpoint t) = [] := by
  obtain ⟨s, hs⟩ := exists_append_sinceCheckpoint t
  rw [← hs, times_append] at h
  exact (List.append_eq_nil_iff.1 h).2

theorem checkpoints_eq_nil_iff {t : List (Event τ)} :
    checkpoints config t = [] ↔ ∀ e ∈ t, asksCheckpoint e = false := by
  constructor
  · intro h e he
    unfold asksCheckpoint
    split
    · next request reply =>
      refine beq_eq_false_iff_ne.2 fun hm => ?_
      have hb : (request.params,
          reply.taken config "getLatestBlockhash" >>= Result.checkpoint) ∈
            checkpoints config t := mem_answers.2 ⟨request, reply, he, hm, rfl⟩
      rw [h] at hb
      cases hb
    · rfl
  · intro h
    refine answers_eq_nil fun request reply he hm => ?_
    have hasks := h _ he
    rw [asksCheckpoint, hm] at hasks
    cases hasks

theorem sinceCheckpoint_append_of_eq_nil {t₁ t₂ : List (Event τ)}
    (h : checkpoints config t₂ = []) :
    sinceCheckpoint (t₁ ++ t₂) = sinceCheckpoint t₁ ++ t₂ := by
  have hnone := checkpoints_eq_nil_iff.1 h
  rw [sinceCheckpoint, sinceCheckpoint, List.rtakeWhile, List.rtakeWhile, List.reverse_append,
    List.takeWhile_append_of_pos (by simpa using hnone), List.reverse_append, List.reverse_reverse]

theorem sinceCheckpoint_append_of_ne_nil {t₁ t₂ : List (Event τ)}
    (h : checkpoints config t₂ ≠ []) : sinceCheckpoint (t₁ ++ t₂) = sinceCheckpoint t₂ := by
  obtain ⟨e, he, hasks⟩ : ∃ e ∈ t₂, asksCheckpoint e = true := by
    by_contra hnone
    refine h (checkpoints_eq_nil_iff.2 fun e he => ?_)
    simpa using fun hasks => hnone ⟨e, he, hasks⟩
  rw [sinceCheckpoint, sinceCheckpoint, List.rtakeWhile, List.rtakeWhile, List.reverse_append,
    List.takeWhile_append, if_neg]
  intro hlength
  have hall := (List.takeWhile_prefix fun e => !asksCheckpoint e).eq_of_length hlength
  simpa [hasks] using List.takeWhile_eq_self_iff.1 hall e (List.mem_reverse.2 he)

/-! ## One call -/

/-- An answer may be another the next time. -/
def Passing (b : List Json × Except Failure α) : Prop :=
  ∃ fault, b.2 = .error (.client (.transport fault))

/-- A call was made and came to the answer `a`: before the last answer there are only passing ones,
and the last one is `a`, unless the call gave up. -/
structure Heard (config : SessionConfig τ) (method : String) (params : List Json)
    (read : Json → Except Failure α) (t : List (Event τ)) (a : Except Failure α) : Prop where
  own : ∀ e ∈ t, Session.Own method params e
  last : ∃ earlier, (∀ b ∈ earlier, Passing b) ∧
    (answers config method read t = earlier ∧ Passing (params, a) ∨
      answers config method read t = earlier ++ [(params, a)])

namespace Heard

variable {params : List Json} {t : List (Event τ)} {a : Except Failure α}

theorem request_eq (h : Heard config method params read t a) {request : RpcRequest}
    {reply : Reply} (he : .transport (.posted request reply) ∈ t) :
    request.method = method ∧ request.params = params := by
  cases h.own _ he with
  | posted => exact ⟨rfl, rfl⟩

/-- A call asks no other question. -/
theorem answers_eq_nil (h : Heard config method params read t a) {β : Type} {other : String}
    {readOther : Json → Except Failure β} (hne : method ≠ other) :
    answers config other readOther t = [] :=
  Wire.answers_eq_nil fun _ _ he => by
    rw [(h.request_eq he).1]
    exact hne

theorem times_eq_nil (h : Heard config method params read t a) : times t = [] := by
  refine List.filterMap_eq_nil_iff.2 fun e he => ?_
  cases h.own e he <;> rfl

/-- A report afterwards does not count. -/
theorem append_logged (h : Heard config method params read t a) (line : Log.Line) :
    Heard config method params read (t ++ [.host (.logged line)]) a where
  own := by
    refine List.forall_mem_append.2 ⟨h.own, fun e he => ?_⟩
    rw [List.mem_singleton.1 he]
    exact .logged line
  last := by
    rw [answers_append, answers_of_host Host.Only.nil.cons, List.append_nil]
    exact h.last

/-- What no passing answer has, one of the answers has exactly if the result has it. -/
theorem exists_iff (h : Heard config method params read t a) {P : Except Failure α → Prop}
    (hP : ∀ fault, ¬ P (.error (.client (.transport fault)))) :
    (∃ b ∈ answers config method read t, P b.2) ↔ P a := by
  have hpassing : ∀ b : List Json × Except Failure α, Passing b → ¬ P b.2 := by
    intro b ⟨fault, hb⟩
    rw [hb]
    exact hP fault
  obtain ⟨earlier, hearlier, ⟨ht, hgave⟩ | ht⟩ := h.last
  · rw [ht]
    refine iff_of_false ?_ (hpassing _ hgave)
    intro ⟨b, hb, hp⟩
    exact hpassing b (hearlier b hb) hp
  · rw [ht]
    constructor
    · intro ⟨b, hb, hp⟩
      rcases List.mem_append.1 hb with hb | hb
      · exact absurd hp (hpassing b (hearlier b hb))
      · rw [List.mem_singleton.1 hb] at hp
        exact hp
    · exact fun hp => ⟨(params, a), by simp, hp⟩

/-- A result that is not passing is the last answer. -/
theorem getLast?_eq (h : Heard config method params read t a)
    (ha : ¬ Passing (params, a)) :
    (answers config method read t).getLast? = some (params, a) := by
  obtain ⟨earlier, -, ⟨-, hgave⟩ | ht⟩ := h.last
  · exact absurd hgave ha
  · rw [ht, List.getLast?_concat]

end Heard
end Wire

namespace Session

variable {τ α : Type} [Seconds τ] {config : SessionConfig τ} {method : String} {params : List Json}
  {read : Json → Except Failure α} {t : List (Wire.Event τ)}

omit [Seconds τ] in
/-- All that a transient request is answered is passing. -/
theorem passing_of_transient {config : SessionConfig τ}
    (ht : ∀ e ∈ t, Transient config method e) :
    ∀ b ∈ Wire.answers config method read t, Wire.Passing b := by
  intro b hb
  obtain ⟨request, reply, he, hm, rfl⟩ := Wire.mem_answers.1 hb
  obtain ⟨-, fault, hfault⟩ := ht _ he request reply rfl
  exact ⟨fault, by rw [hfault]; rfl⟩

/-- A call that meets no fault. -/
theorem call_heard {r : Except Failure α}
    (h : Run (call Wire.host Wire.transport config method params >>= fun result =>
      liftM (read result)) t r) (hclient : FailsOnly Failure.IsClient r) :
    Wire.Heard config method params read t r := by
  obtain ⟨answer, hcall, rfl⟩ := run_read.1 h
  have hown := call_own hcall
  refine ⟨hown, ?_⟩
  cases call_run hcall with
  | @exhausted _ fault ht => exact ⟨_, passing_of_transient ht, .inl ⟨rfl, fault, rfl⟩⟩
  | undelayed ht hf =>
    obtain ⟨n, kind, -, -, rfl⟩ := hf
    exact absurd hclient (not_caught kind)
  | unsent ht hp => exact absurd hclient (not_caught _)
  | @answered t request reply ht hm hd hgenuine hn =>
    refine ⟨Wire.answers config method read t, passing_of_transient ht, .inr ?_⟩
    have hreq : request.params = params := by
      cases hown (.transport (.posted request reply)) (by simp) with
      | posted => rfl
    rw [Wire.answers_append]
    simp [Wire.answers, hm, hreq]

end Session
end StorageAgent
