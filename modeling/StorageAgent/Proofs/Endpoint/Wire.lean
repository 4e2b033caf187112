import StorageAgent.Endpoint.Session
import StorageAgent.Proofs.Retry

/-!
# Calls over the wire

A transport that may reply anything: any status, any body, no response at all.
The trace tells each request with its reply. A call of a session sends its request
again and again, and ends in one of three ways (`Called`): nothing but transport
errors came back, the request was never sent, or one reply was read, the last one.

* `call_run`: every run of a call ends in one of the three ways.
* `ask_run`: the same for a call whose result is then read.
-/
namespace StorageAgent

open Behaviour

/-- An exchange breaks by a fault, not by an error of the client. -/
def Reply.Genuine : Reply → Prop
  | broken f => ∃ kind message, f = .fault kind message
  | _ => True

/-- What a session makes of a reply. A response cannot be taken in if its sender has no name. -/
def Reply.taken {τ : Type} (config : SessionConfig τ) (method : String) (reply : Reply) :
    Except Failure Json :=
  if config.destination = .relative ∧ reply.isResponse then .error (.of .badValue)
  else reply.result config.nesting method

theorem Reply.taken_of_named {τ : Type} {config : SessionConfig τ} (h : config.destination ≠ .relative)
    (method : String) (reply : Reply) :
    reply.taken config method = reply.result config.nesting method :=
  if_neg fun hrelative => h hrelative.1

theorem SessionConfig.standard_named {τ : Type} [Seconds τ] :
    (standard : SessionConfig τ).destination ≠ .relative :=
  Destination.noConfusion

/-- What a transport was asked for, and how it ended. -/
inductive Transport.Event where
  | numbered (id : Nat)
  | posted (request : RpcRequest) (reply : Reply)

/-- A transport with any numbers and any replies. -/
def Transport.free {ε : Type} (event : Transport.Event → ε) : Transport (Behaviour ε) where
  nextId := .answered fun id => event (.numbered id)
  post request := fun t reply => t = [event (.posted request reply)] ∧ reply.Genuine

/-- What happens between a session and the world. -/
inductive Wire.Event (τ : Type) where
  | host (event : Host.Event τ)
  | transport (event : Transport.Event)

/-- The machine that a session runs on. -/
def Wire.host {τ : Type} : Host (Behaviour (Wire.Event τ)) τ := .free .host

/-- The transport that a session uses. -/
def Wire.transport {τ : Type} : Transport (Behaviour (Wire.Event τ)) := .free .transport

namespace Wire

variable {τ : Type}

/-- The replies in a trace, in their order. -/
def replies (t : List (Event τ)) : List Reply :=
  t.filterMap fun
    | .transport (.posted _ reply) => some reply
    | _ => none

theorem mem_replies {t : List (Event τ)} {reply : Reply} :
    reply ∈ replies t ↔ ∃ request, .transport (.posted request reply) ∈ t := by
  rw [replies, List.mem_filterMap]
  constructor
  · rintro ⟨e, he, hr⟩
    split at hr
    · cases hr
      exact ⟨_, he⟩
    · cases hr
  · rintro ⟨request, he⟩
    exact ⟨_, he, rfl⟩

theorem replies_concat {t : List (Event τ)} {request : RpcRequest} {reply : Reply} :
    replies (t ++ [.transport (.posted request reply)]) = replies t ++ [reply] := by
  simp [replies]

theorem replies_append {t₁ t₂ : List (Event τ)} : replies (t₁ ++ t₂) = replies t₁ ++ replies t₂ :=
  List.filterMap_append

theorem replies_of_host {t : List (Event τ)} (ht : Host.Only .host t) : replies t = [] := by
  refine List.filterMap_eq_nil_iff.2 fun e he => ?_
  obtain ⟨h, rfl⟩ := ht e he
  rfl

end Wire

namespace Session

variable {τ α : Type} {config : SessionConfig τ} {method : String}
  {params : List Json} {read : Json → Except Failure α}

/-- A request of the method, if there is one, came to a transport error. -/
def Transient (config : SessionConfig τ) (method : String) (e : Wire.Event τ) : Prop :=
  ∀ request reply, e = .transport (.posted request reply) → request.method = method ∧
    ∃ fault, reply.taken config method = .error (.client (.transport fault))

theorem transient_host (h : Host.Event τ) : Transient config method (.host h) := by
  rintro _ _ ⟨⟩

theorem transient_numbered (id : Nat) :
    Transient config method (.transport (.numbered id) : Wire.Event τ) := by
  rintro _ _ ⟨⟩

/-- One exchange leaves at most one request, at its end. -/
theorem exchange_run {t : List (Wire.Event τ)} {r : Except Failure Json}
    (h : Run (exchange Wire.host Wire.transport config method params) t r) :
    ((∀ e ∈ t, Transient config method e) ∧
        (config.destination = .invalid ∨ Json.allWritable params = false) ∧
        ∃ kind, r = .error (.of kind)) ∨
      ∃ t₁ request reply, (∀ e ∈ t₁, Transient config method e) ∧
        t = t₁ ++ [.transport (.posted request reply)] ∧ request.method = method ∧
        config.destination ≠ .invalid ∧ reply.Genuine ∧ r = reply.taken config method := by
  obtain ⟨_, id, _, rfl, h₁, rfl⟩ := run_lift_bind.1 h
  obtain ⟨_, -, _, rfl, h₂, rfl⟩ := run_lift_bind.1 h₁
  have ht : ∀ line, ∀ e ∈ [Wire.Event.transport (τ := τ) (.numbered id), .host (.logged line)],
      Transient config method e := by
    intro line
    simp only [List.forall_mem_cons, List.not_mem_nil, false_implies, implies_true, and_true]
    exact ⟨transient_numbered id, transient_host _⟩
  dsimp only at h₂
  split at h₂
  · rename_i hd
    obtain ⟨rfl, rfl⟩ := run_throw_bind.1 h₂
    exact .inl ⟨ht _, .inl hd, _, rfl⟩
  rename_i hvalid
  split at h₂
  · rename_i hp
    obtain ⟨rfl, rfl⟩ := run_throw_bind.1 h₂
    exact .inl ⟨ht _, .inr (by simpa using hp), _, rfl⟩
  obtain ⟨_, reply, t, ⟨rfl, hgenuine⟩, h₃, rfl⟩ := run_lift_bind.1 h₂
  have hr : t = [] ∧ r = reply.taken config method := by
    rw [Reply.taken]
    split at h₃
    · rename_i hd
      rw [if_pos hd]
      exact run_throw_bind.1 h₃
    · rename_i hd
      rw [if_neg hd]
      exact run_except.1 h₃
  obtain ⟨rfl, rfl⟩ := hr
  exact .inr ⟨[_, _], _, reply, ht _, rfl, rfl, hvalid, hgenuine, rfl⟩

/-- The failures of a delay between two attempts that cannot be computed. -/
def Undelayed [Seconds τ] (config : SessionConfig τ) (f : Failure) : Prop :=
  ∃ (n : Nat) (kind : FaultKind), n + 1 < config.maxAttempts ∧
    (backoff config).plainDelay n = .error kind ∧ f = .of kind

/-- How a call ends. All requests but the one that is answered came to transport errors. -/
inductive Called [Seconds τ] (config : SessionConfig τ) (method : String) (params : List Json) :
    List (Wire.Event τ) → Except Failure Json → Prop where
  | exhausted {t : List (Wire.Event τ)} {fault : TransportFault}
      (ht : ∀ e ∈ t, Transient config method e) :
      Called config method params t (.error (.client (.transport fault)))
  | undelayed {t : List (Wire.Event τ)} {f : Failure}
      (ht : ∀ e ∈ t, Transient config method e) (hf : Undelayed config f) :
      Called config method params t (.error f)
  | unsent {t : List (Wire.Event τ)} {kind : FaultKind}
      (ht : ∀ e ∈ t, Transient config method e)
      (hp : config.destination = .invalid ∨ Json.allWritable params = false) :
      Called config method params t (.error (.of kind))
  | answered {t : List (Wire.Event τ)} {request : RpcRequest} {reply : Reply}
      (ht : ∀ e ∈ t, Transient config method e) (hm : request.method = method)
      (hd : config.destination ≠ .invalid) (hgenuine : reply.Genuine)
      (hn : ∀ f, reply.taken config method = .error f → f.isTransport = false) :
      Called config method params (t ++ [.transport (.posted request reply)])
        (reply.taken config method)

theorem Called.method_eq [Seconds τ] {t : List (Wire.Event τ)} {r : Except Failure Json}
    (h : Called config method params t r) :
    ∀ e ∈ t, ∀ request reply, e = .transport (.posted request reply) → request.method = method := by
  cases h with
  | exhausted ht => exact fun e he request reply hp => (ht e he request reply hp).1
  | undelayed ht => exact fun e he request reply hp => (ht e he request reply hp).1
  | unsent ht => exact fun e he request reply hp => (ht e he request reply hp).1
  | answered ht hm =>
    refine List.forall_mem_append.2 ⟨fun e he request reply hp => (ht e he request reply hp).1, ?_⟩
    intro e he
    rw [List.mem_singleton.1 he]
    rintro _ _ ⟨⟩
    exact hm

theorem exchange_transient {t : List (Wire.Event τ)} {fault : TransportFault}
    (h : Run (exchange Wire.host Wire.transport config method params) t
      (.error (.client (.transport fault)))) : ∀ e ∈ t, Transient config method e := by
  rcases exchange_run h with ⟨ht, -, -⟩ | ⟨t₁, request, reply, ht, rfl, hm, -, -, hr⟩
  · exact ht
  · refine List.forall_mem_append.2 ⟨ht, fun e he => ?_⟩
    rw [List.mem_singleton.1 he]
    rintro _ _ ⟨⟩
    exact ⟨hm, fault, hr.symm⟩

theorem call_run [Seconds τ] {t : List (Wire.Event τ)} {r : Except Failure Json}
    (h : Run (call Wire.host Wire.transport config method params) t r) :
    Called config method params t r := by
  cases Backoff.attempts_run transient_host (fun _ _ => exchange_transient) _ _ _ _
    (Nat.zero_add _) h with
  | exhausted ht => exact .exhausted ht
  | undelayed ht hn hd =>
    exact .undelayed ht ⟨_, _, (by simp only [backoff] at hn; omega), hd, rfl⟩
  | @answered t₁ t₂ r ht hr hn =>
    rcases exchange_run hr with
      ⟨ht₂, hp, kind, rfl⟩ | ⟨t₃, request, reply, ht₃, rfl, hm, hd, hg, rfl⟩
    · exact .unsent (List.forall_mem_append.2 ⟨ht, ht₂⟩) hp
    · rw [← List.append_assoc]
      exact .answered (List.forall_mem_append.2 ⟨ht, ht₃⟩) hm hd hg hn

/-- What a call leaves: its own request with any reply, and whatever lies between two requests. It
does not look at the clock. -/
inductive Own (method : String) (params : List Json) : Wire.Event τ → Prop where
  | numbered (id : Nat) : Own method params (.transport (.numbered id))
  | posted {id : Nat} {reply : Reply} (hgenuine : reply.Genuine) :
      Own method params (.transport (.posted ⟨id, method, params⟩ reply))
  | logged (line : Log.Line) : Own method params (.host (.logged line))
  | drew (u : τ) : Own method params (.host (.drew u))
  | slept (d : τ) : Own method params (.host (.slept d))

theorem exchange_own : Leaves (Own method params)
    (exchange (τ := τ) Wire.host Wire.transport config method params) := by
  refine .bind (.answered .numbered) fun id => .bind (.answered fun _ => .logged _) fun _ => ?_
  refine .check_bind (.check_bind (.bind (.lift ?_) fun reply => .check_bind ?_))
  · rintro t reply ⟨rfl, hgenuine⟩ e he
    cases List.mem_singleton.1 he
    exact .posted hgenuine
  · intro t r hr
    obtain ⟨rfl, -⟩ := run_except.1 hr
    simp

theorem call_own [Seconds τ] :
    Leaves (Own method params) (call (τ := τ) Wire.host Wire.transport config method params) :=
  Backoff.attempts_leaves .drew .logged .slept exchange_own _ _

theorem call_genuine [Seconds τ] {t : List (Wire.Event τ)} {r : Except Failure Json}
    (h : Run (call Wire.host Wire.transport config method params) t r) :
    ∀ reply ∈ Wire.replies t, reply.Genuine := by
  intro reply hreply
  obtain ⟨request, he⟩ := Wire.mem_replies.1 hreply
  cases call_own h _ he with
  | posted hgenuine => exact hgenuine

/-! ## Building runs -/

theorem exchange_of_reply (reply : Reply) (id : Nat) (hd : config.destination ≠ .invalid)
    (hp : Json.allWritable params = true) (hgenuine : reply.Genuine) :
    Run (exchange (τ := τ) Wire.host Wire.transport config method params)
      [.transport (.numbered id), .host (.logged ⟨.debug, .endpoint, s!"RPC {method} id={id}"⟩),
        .transport (.posted ⟨id, method, params⟩ reply)] (reply.taken config method) := by
  refine run_lift_bind.2 ⟨[_], id, _, rfl, ?_, rfl⟩
  refine run_lift_bind.2 ⟨[_], (), _, rfl, ?_, rfl⟩
  dsimp only
  rw [if_neg hd, if_neg (by rw [hp]; decide)]
  refine run_lift_bind.2 ⟨[_], reply, [], ⟨rfl, hgenuine⟩, ?_, rfl⟩
  rw [Reply.taken]
  split
  · exact run_throw_bind.2 ⟨rfl, rfl⟩
  · exact run_except.2 ⟨rfl, rfl⟩

theorem call_of_reply [Seconds τ] (reply : Reply) (id : Nat) (ha : 0 < config.maxAttempts)
    (hd : config.destination ≠ .invalid) (hp : Json.allWritable params = true)
    (hgenuine : reply.Genuine)
    (hn : ∀ f, reply.taken config method = .error f → f.isTransport = false) :
    Run (call Wire.host Wire.transport config method params)
      [.transport (.numbered id), .host (.logged ⟨.debug, .endpoint, s!"RPC {method} id={id}"⟩),
        .transport (.posted ⟨id, method, params⟩ reply)] (reply.taken config method) := by
  obtain ⟨left, hl⟩ : ∃ left, (backoff config).maxAttempts.toNat = left + 1 :=
    Nat.exists_eq_succ_of_ne_zero (by simp only [backoff]; omega)
  rw [call, Backoff.retry, hl]
  exact Backoff.attempts_done (exchange_of_reply reply id hd hp hgenuine) hn

/-! ## The questions of a ledger -/

section
variable [Seconds τ] {t : List (Wire.Event τ)}

theorem send_run {raw : Bytes} {r : Except Failure Json}
    (h : Run ((ledger Wire.host Wire.transport config).send raw) t r) :
    ∃ params answer, Called config "sendTransaction" params t answer ∧
      r = answer >>= Result.signature := by
  obtain ⟨answer, h, hr⟩ := run_read.1 h
  exact ⟨_, answer, call_run h, hr⟩

theorem status_run {signature : Json} {r : Except Failure (Option SignatureStatus)}
    (h : Run ((ledger Wire.host Wire.transport config).status signature) t r) :
    ∃ params answer, Called config "getSignatureStatuses" params t answer ∧
      Json.allWritable params = signature.isWritable ∧ r = answer >>= Result.status := by
  obtain ⟨answer, h, hr⟩ := run_read.1 h
  exact ⟨_, answer, call_run h, by simp [Json.allWritable, Json.isWritable, Json.membersWritable], hr⟩

theorem height_run {r : Except Failure Json}
    (h : Run (ledger Wire.host Wire.transport config).height t r) :
    ∃ params answer, Called config "getBlockHeight" params t answer ∧
      Json.allWritable params = true ∧ r = answer >>= Result.height := by
  obtain ⟨answer, h, hr⟩ := run_read.1 h
  refine ⟨_, answer, call_run h, ?_, hr⟩
  simp [readOptions, Json.allWritable, Json.isWritable, Json.membersWritable]

end

end Session
end StorageAgent
