import StorageAgent.Proofs.Backoff.Tries
import StorageAgent.Proofs.Seconds
import StorageAgent.Proofs.Endpoint.Legible
import StorageAgent.Proofs.Json.Bodies

/-!
# Which replies lead to another request

A call should send its request again if the reply may be another the next time, and as long as there
are attempts left. Everything else should end it at once, and the last reply be what it ends with.
That is so unless a body is taken for something else than what it spells: one that is nested too
deeply, one with an integer of too many digits, or one with a word that is no JSON.

* `Reply.Shows`: what a reply comes to, by the grammar of its body.
* `Reply.Misread`: a body that is taken for something else.
* `Reply.Shows.ends_iff`: every other reply gives what a call should end with.
* `resent_iff`: requests are sent again as they should be exactly if no body is misread.
* `unsent_after_brackets`: a body that is no JSON, after which no request is sent again.
-/
namespace StorageAgent

open Behaviour

/-! ## Outcomes -/

/-- An error as a node writes it. -/
structure RpcError where
  code : Int
  message : String
  /-- What is wrong with the transaction; null if nothing is. -/
  cause : Json

namespace RpcError

/-- The members of an error tell its code, its message and its cause. If the cause is the error of an
instruction, it comes in a pair. -/
structure Written (e : RpcError) (members : List (String × Json)) : Prop where
  code : Json.member? members "code" = some (.int e.code)
  message : Json.member? members "message" = some (.text e.message)
  cause : (errorData members).1 = e.cause
  named : e.cause.NamesFault

/-- The message or the cause tells of an unusable block hash. -/
def DeniesBlockhash (e : RpcError) : Prop :=
  isStaleMessage e.message = true ∨ e.cause = .text "BlockhashNotFound"

/-- The node is behind, and tells of nothing else. -/
def Temporary (e : RpcError) : Prop :=
  e.code = unhealthyCode ∧ isStaleMessage e.message = false ∧ e.cause = .null

end RpcError

/-- What an exchange comes to. -/
inductive Reply.Outcome where
  | unreachable (kind message : String)
  | refused (status : Int)
  | malformed
  | failed (error : RpcError)
  | result (result : Json)

/-- A reply comes to an outcome: there is no response, or its status says that it failed, its body
is no JSON, or the body is an object with an error, or one without. -/
inductive Reply.Shows : Reply → Reply.Outcome → Prop where
  | unreachable (kind message : String) :
      Shows (.unreachable kind message) (.unreachable kind message)
  | refused {status : Int} {body : Bytes} (hstatus : 400 ≤ status) :
      Shows (.response status body) (.refused status)
  | malformed {status : Int} {body : Bytes} (hstatus : status < 400)
      (hbody : ∀ v, ¬ Json.IsBody body v) : Shows (.response status body) .malformed
  | failed {status : Int} {body : Bytes} {members error : List (String × Json)} {e : RpcError}
      (hstatus : status < 400) (hbody : Json.IsBody body (.object members))
      (herror : Json.member? members "error" = some (.object error)) (hwritten : e.Written error) :
      Shows (.response status body) (.failed e)
  | result {status : Int} {body : Bytes} {members : List (String × Json)} (hstatus : status < 400)
      (hbody : Json.IsBody body (.object members))
      (herror : Json.member? members "error" = none) :
      Shows (.response status body) (.result (Json.memberOr members "result"))

namespace Reply.Outcome

/-- It may be another the next time. -/
def Passing : Outcome → Prop
  | unreachable .. => True
  | refused status => status = 429 ∨ 500 ≤ status
  | malformed => True
  | failed e => e.Temporary
  | result _ => False

/-- What a call ends with if this is the last outcome. -/
inductive Ends (method : String) : Outcome → Except Failure Json → Prop where
  | passing {o : Outcome} (fault : TransportFault) (h : o.Passing) :
      Ends method o (.error (.client (.transport fault)))
  | refused {status : Int} (h : ¬ (status = 429 ∨ 500 ≤ status)) :
      Ends method (.refused status) (.error (.client (.network (.httpStatus method status))))
  | stale {e : RpcError} (h : e.DeniesBlockhash) :
      Ends method (.failed e) (.error (.client (.stale (.refused method e.message))))
  | rejected {e : RpcError} (rejection : Rejection) (hdenied : ¬ e.DeniesBlockhash)
      (h : ¬ e.Temporary) : Ends method (.failed e) (.error (.client (.rejected rejection)))
  | result (result : Json) : Ends method (.result result) (.ok result)

/-- A call that could end with an outcome ends with a transport error exactly if the outcome may be
another the next time. -/
theorem Ends.transient_iff {method : String} {o : Outcome} {r : Except Failure Json}
    (h : o.Ends method r) : Backoff.Transient r ↔ o.Passing := by
  cases h with
  | passing fault h => exact iff_of_true ⟨fault, rfl⟩ h
  | refused h => exact iff_of_false nofun h
  | stale h =>
    refine iff_of_false nofun ?_
    intro htemporary
    obtain ⟨-, hmessage, hcause⟩ := htemporary
    obtain hstale | hnamed := h
    · rw [hmessage] at hstale
      cases hstale
    · rw [hcause] at hnamed
      cases hnamed
  | rejected rejection hdenied h => exact iff_of_false nofun h
  | result result => exact iff_of_false nofun id

theorem ends_transport_iff {method : String} {o : Outcome} {fault : TransportFault} :
    o.Ends method (.error (.client (.transport fault))) ↔ o.Passing :=
  ⟨fun h => h.transient_iff.1 ⟨fault, rfl⟩, .passing fault⟩

/-- A call should not end with a fault. -/
theorem Ends.caught {method : String} {o : Outcome} {r : Except Failure Json}
    (h : o.Ends method r) : FailsOnly Failure.IsClient r := by
  cases h with
  | result result => exact .ok result
  | _ => exact .error ⟨_, rfl⟩

end Reply.Outcome

/-- A body is taken for something else than what it spells: it is nested too deeply for the reader,
it has an integer of too many digits, so that it seems to be no JSON, or it is no JSON and is read
all the same. -/
inductive Reply.Misread (nesting : Nat) (method : String) : Reply → Reply.Outcome → Prop where
  | tooDeep {status : Int} {body : Bytes} {o : Outcome} (hstatus : status < 400)
      (hbody : Json.parseBody nesting body = .error .tooDeep) :
      Misread nesting method (.response status body) o
  | tooManyDigits {status : Int} {body : Bytes} {o : Outcome} (hstatus : status < 400)
      (hbody : Json.parseBody nesting body = .error .tooManyDigits) (ho : ¬ o.Passing) :
      Misread nesting method (.response status body) o
  | words {status : Int} {body : Bytes} {answer : Json} (hstatus : status < 400)
      (hbody : Json.parseBody nesting body = .ok answer)
      (hanswer : ¬ Backoff.Transient (answerResult method answer)) :
      Misread nesting method (.response status body) .malformed

/-! ## What an outcome ends in -/

section
variable {method : String} {nesting : Nat} {status : Int} {body : Bytes} {reply : Reply}
  {o : Reply.Outcome} {e : RpcError} {members : List (String × Json)}

theorem RpcError.Written.blockhashDenied_iff (h : e.Written members) :
    blockhashDenied (.object members) = true ↔ e.DeniesBlockhash := by
  rw [blockhashDenied, h.cause, h.message, Bool.or_eq_true, or_comm]
  refine or_congr Iff.rfl ?_
  cases e.cause <;> simp

/-- The error of a node is a stale checkpoint, a transport error or a rejection. -/
theorem RpcError.Written.ends (h : e.Written members) :
    (Reply.Outcome.failed e).Ends method (.error (rpcFailure method (.object members))) := by
  have hcode : Json.memberOr members "code" = .int e.code := by
    rw [Json.memberOr, h.code]
    rfl
  rw [rpcFailure_object, hcode, h.message, h.cause]
  dsimp only
  by_cases hdenied : e.DeniesBlockhash
  · rw [if_pos (h.blockhashDenied_iff.2 hdenied)]
    exact .stale hdenied
  · rw [if_neg (mt h.blockhashDenied_iff.1 hdenied)]
    have hmessage : isStaleMessage e.message = false := by
      simpa using fun hstale => hdenied (.inl hstale)
    unfold refusal
    cases hnull : e.cause.isNull with
    | false =>
      have hrejected : ¬ e.Temporary := by
        intro ⟨_, _, hcause⟩
        rw [hcause] at hnull
        cases hnull
      obtain ⟨told, htold⟩ := TransactionError.ofJson_isOk_iff.2 h.named
      rw [Rejection.ofTransactionError, htold]
      exact .rejected _ hdenied hrejected
    | true =>
      have hcause : e.cause = .null := Json.isNull_iff.1 hnull
      by_cases hbehind : e.code = unhealthyCode
      · have hunhealthy : isUnhealthy (.int e.code) = .ok true := by
          rw [hbehind]
          rfl
        rw [hunhealthy]
        exact .passing _ ⟨hbehind, hmessage, hcause⟩
      · have hhealthy : isUnhealthy (.int e.code) = .ok false := by
          simp [isUnhealthy, hbehind]
        rw [hhealthy]
        exact .rejected _ hdenied fun htemporary => hbehind htemporary.1

/-- A response that did not fail is judged by its body. -/
theorem Reply.result_of_success (hstatus : status < 400) :
    (response status body).result nesting method =
      match Json.parseBody nesting body with
      | .error .tooDeep => .error (Failure.ofJsonFault .tooDeep)
      | .error _ => .error (.client (.transport (.malformedBody method)))
      | .ok answer => answerResult method answer := by
  have hfirst : ¬ (status = 429 ∨ 500 ≤ status) := by omega
  have hsecond : ¬ 400 ≤ status := by omega
  exact (if_neg hfirst).trans (if_neg hsecond)

theorem Reply.not_misread_of_malformed (hbody : Json.parseBody nesting body = .error .malformed) :
    ¬ (response status body).Misread nesting method o := by
  intro h
  cases h with
  | tooDeep _ hfault => cases hbody.symm.trans hfault
  | tooManyDigits _ hfault => cases hbody.symm.trans hfault
  | words _ hread => cases hbody.symm.trans hread

/-- A body that is not read ends a call as it should, unless it is misread. -/
theorem Reply.ends_iff_of_fault {fault : Json.Fault} (hstatus : status < 400)
    (hbody : Json.parseBody nesting body = .error fault) (ho : fault = .malformed → o.Passing) :
    o.Ends method ((response status body).result nesting method) ↔
      ¬ (response status body).Misread nesting method o := by
  rw [result_of_success hstatus, hbody]
  cases fault with
  | malformed => exact iff_of_true (.passing _ (ho rfl)) (not_misread_of_malformed hbody)
  | tooManyDigits =>
    refine Outcome.ends_transport_iff.trans ⟨fun hpassing h => ?_, fun h => ?_⟩
    · cases h with
      | tooDeep _ hfault => cases hbody.symm.trans hfault
      | tooManyDigits _ _ hnot => exact hnot hpassing
      | words _ hread => cases hbody.symm.trans hread
    · exact by_contra fun hnot => h (.tooManyDigits hstatus hbody hnot)
  | tooDeep => exact iff_of_false (fun h => not_caught _ h.caught) fun h => h (.tooDeep hstatus hbody)

theorem Reply.not_misread {v : Json} (hbody : Json.parseBody nesting body = .ok v)
    (ho : o ≠ .malformed) : ¬ (response status body).Misread nesting method o := by
  intro h
  cases h with
  | tooDeep _ hfault => cases hbody.symm.trans hfault
  | tooManyDigits _ hfault => cases hbody.symm.trans hfault
  | words => exact ho rfl

/-- A body that is JSON ends a call as it should, unless it is misread. -/
theorem Reply.ends_iff_of_isBody {v : Json} (hstatus : status < 400) (hbody : Json.IsBody body v)
    (ho : o ≠ .malformed) (hends : o.Ends method (answerResult method v)) :
    o.Ends method ((response status body).result nesting method) ↔
      ¬ (response status body).Misread nesting method o := by
  obtain hread | hfault | hfault := hbody.parse_cases nesting
  · rw [result_of_success hstatus, hread]
    exact iff_of_true hends (not_misread hread ho)
  · exact ends_iff_of_fault hstatus hfault nofun
  · exact ends_iff_of_fault hstatus hfault nofun

/-- A reply gives what a call should end with, unless its body is misread. -/
theorem Reply.Shows.ends_iff (h : reply.Shows o) :
    o.Ends method (reply.result nesting method) ↔ ¬ reply.Misread nesting method o := by
  cases h with
  | unreachable kind message =>
    refine iff_of_true (.passing _ trivial) fun h => ?_
    cases h
  | @refused status body hstatus =>
    refine iff_of_true ?_ fun h => ?_
    · rw [Reply.result]
      by_cases hpassing : status = 429 ∨ 500 ≤ status
      · rw [if_pos hpassing]
        exact .passing _ hpassing
      · rw [if_neg hpassing, if_pos hstatus]
        exact .refused hpassing
    · cases h with
      | tooDeep hless => omega
      | tooManyDigits hless => omega
  | @malformed status body hstatus hbody =>
    cases hread : Json.parseBody nesting body with
    | error fault => exact ends_iff_of_fault hstatus hread fun _ => trivial
    | ok answer =>
      rw [Reply.result_of_success hstatus, hread]
      have hmisread : (Reply.response status body).Misread nesting method .malformed ↔
          ¬ Backoff.Transient (answerResult method answer) := by
        constructor
        · intro h
          cases h with
          | tooDeep _ hfault => cases hread.symm.trans hfault
          | tooManyDigits _ hfault => cases hread.symm.trans hfault
          | words _ hread' hanswer =>
            cases hread.symm.trans hread'
            exact hanswer
        · exact .words hstatus hread
      rw [hmisread, not_not]
      constructor
      · exact fun h => h.transient_iff.2 trivial
      · rintro ⟨fault, hfault⟩
        dsimp only
        rw [hfault]
        exact .passing fault trivial
  | @failed _ _ members error e hstatus hbody herror hwritten =>
    refine ends_iff_of_isBody hstatus hbody (by rintro ⟨⟩) ?_
    obtain ⟨_, hsome, hfailure⟩ | ⟨hnone, -⟩ := answerResult_cases method members
    · rw [herror, Option.some.injEq] at hsome
      subst hsome
      rw [hfailure]
      exact hwritten.ends
    · rw [herror] at hnone
      cases hnone
  | @result _ _ members hstatus hbody herror =>
    refine ends_iff_of_isBody hstatus hbody (by rintro ⟨⟩) ?_
    obtain ⟨_, hsome, -⟩ | ⟨-, hresult⟩ := answerResult_cases method members
    · rw [herror] at hsome
      cases hsome
    · rw [hresult]
      exact .result _

end

/-! ## Calls -/

namespace Session

/-- The replies come to these outcomes, one after the other. -/
def Shown {τ : Type} (outcomes : Nat → Reply.Outcome) (t : List (Wire.Event τ)) : Prop :=
  ∀ (n : Nat) (reply : Reply), (Wire.replies t)[n]? = some reply → reply.Shows (outcomes n)

/-- How a call of at most `limit` attempts should deal with the outcomes. -/
structure Resends {τ : Type} (limit : Int) (method : String) (params : List Json)
    (outcomes : Nat → Reply.Outcome) (t : List (Wire.Event τ)) (r : Except Failure Json) : Prop where
  /-- There is another request exactly if the outcome may be another then, and attempts are left. -/
  again : ∀ n < (Wire.replies t).length,
    (n + 1 < (Wire.replies t).length ↔ (n : Int) + 1 < limit ∧ (outcomes n).Passing)
  /-- The call ends with the last outcome. -/
  ends : ∀ n, n + 1 = (Wire.replies t).length → (outcomes n).Ends method r
  /-- All requests are the same, but for their numbers. -/
  same : ∀ request reply, Wire.Event.transport (.posted request reply) ∈ t →
    request.method = method ∧ request.params = params
  /-- A request is sent, if it can be written. -/
  sent : Json.allWritable params = true → Wire.replies t ≠ []

section
variable {τ : Type} {config : SessionConfig τ} {method : String} {params : List Json}
  {outcomes : Nat → Reply.Outcome} {t : List (Wire.Event τ)} {r : Except Failure Json}

/-- Every reply of such a call gives what its outcome should end with. -/
theorem Resends.ends_at {limit : Int} {n : Nat} {x : Except Failure Json}
    (h : Resends limit method params outcomes t r) (hn : n < (Wire.replies t).length)
    (hlater : n + 1 < (Wire.replies t).length → Backoff.Transient x)
    (hlast : n + 1 = (Wire.replies t).length → x = r) : (outcomes n).Ends method x := by
  by_cases hmore : n + 1 < (Wire.replies t).length
  · obtain ⟨fault, rfl⟩ := hlater hmore
    exact .passing fault ((h.again n hn).1 hmore).2
  · have hend : n + 1 = (Wire.replies t).length := by omega
    rw [hlast hend]
    exact h.ends n hend

/-- An exchange brings one reply, unless the request cannot be written. -/
theorem exchange_replies (hd : config.destination = .absolute)
    (h : Run (exchange Wire.host Wire.transport config method params) t r) :
    (Json.allWritable params = true ∧
        ∃ reply, Wire.replies t = [reply] ∧ r = reply.result config.nesting method) ∨
      (Json.allWritable params = false ∧ Wire.replies t = [] ∧ ∃ kind, r = .error (.of kind)) := by
  obtain ⟨_, id, _, rfl, hlog, rfl⟩ := run_lift_bind.1 h
  obtain ⟨_, -, _, rfl, hpost, rfl⟩ := run_lift_bind.1 hlog
  dsimp only at hpost
  rw [hd, if_neg (by decide)] at hpost
  cases hwritable : Json.allWritable params with
  | false =>
    rw [hwritable, if_pos (by decide)] at hpost
    obtain ⟨rfl, rfl⟩ := run_throw_bind.1 hpost
    exact .inr ⟨rfl, rfl, _, rfl⟩
  | true =>
    rw [hwritable, if_neg (by decide)] at hpost
    obtain ⟨_, reply, _, ⟨rfl, -⟩, hread, rfl⟩ := run_lift_bind.1 hpost
    rw [if_neg (by simp)] at hread
    obtain ⟨rfl, rfl⟩ := run_except.1 hread
    exact .inl ⟨rfl, reply, rfl, rfl⟩

theorem replies_tried [Seconds τ] {b : Backoff τ}
    {operation : ExceptT Failure (Behaviour (Wire.Event τ)) Json} {left n : Nat}
    {tries : List (Backoff.Try (Wire.Event τ) Json)}
    (h : Backoff.Tried .host b method operation left n tries t r) :
    Wire.replies t = tries.flatMap fun a => Wire.replies a.trace :=
  h.filterMap_eq fun _ => rfl

/-- If the request can be written, every try brings one reply, and is what the call makes of it. -/
theorem tries_replies (hd : config.destination = .absolute)
    (hwritable : Json.allWritable params = true) :
    ∀ tries : List (Backoff.Try (Wire.Event τ) Json),
      (∀ a ∈ tries, Run (exchange Wire.host Wire.transport config method params) a.trace a.result) →
      tries.map Backoff.Try.result =
        (tries.flatMap fun a => Wire.replies a.trace).map (Reply.result config.nesting method) := by
  intro tries
  induction tries with
  | nil => exact fun _ => rfl
  | cons a tries ih =>
    intro hrun
    obtain ⟨ha, hlater⟩ := List.forall_mem_cons.1 hrun
    obtain ⟨-, reply, hreply, hresult⟩ | ⟨hunwritable, -⟩ := exchange_replies hd ha
    · rw [List.flatMap_cons, hreply, List.map_cons, hresult, ih hlater]
      rfl
    · rw [hwritable] at hunwritable
      cases hunwritable

/-- A request that cannot be written is not sent. -/
theorem tries_silent (hd : config.destination = .absolute)
    (hunwritable : Json.allWritable params = false) {a : Backoff.Try (Wire.Event τ) Json}
    (h : Run (exchange Wire.host Wire.transport config method params) a.trace a.result) :
    Wire.replies a.trace = [] := by
  obtain ⟨hwritable, -⟩ | ⟨-, hnone, -⟩ := exchange_replies hd h
  · rw [hwritable] at hunwritable
    cases hunwritable
  · exact hnone

end

/-- Every delay of a call of at most 1025 attempts can be computed, so its last try is its end. -/
theorem concludes_iff {config : SessionConfig Float} (hmany : config.maxAttempts ≤ 1025)
    {left earlier : Nat} (hleft : left = config.maxAttempts.toNat) {last r : Except Failure Json} :
    Backoff.Concludes (backoff config) left 0 earlier last r ↔
      r = last ∧ (Backoff.Transient last → earlier + 1 = left) := by
  constructor
  · intro h
    obtain hend | ⟨kind, -, hless, hd, -⟩ := h
    · exact hend
    · have hcomputed : ∃ d, (backoff config).plainDelay (0 + earlier : Nat) = .ok d :=
        (Backoff.plainDelay_isOk_iff rfl).2 (by omega)
      obtain ⟨d, hok⟩ := hcomputed
      rw [hd] at hok
      cases hok
  · exact .inl

section
variable {config : SessionConfig Float} {method : String} {params : List Json}
  {outcomes : Nat → Reply.Outcome} {t : List (Wire.Event Float)} {r : Except Failure Json}

/-- What every reply of a call gives: a transport error if there is another request, and otherwise
what the call ends with. -/
structure Given (config : SessionConfig Float) (method : String) (t : List (Wire.Event Float))
    (r : Except Failure Json) : Prop where
  sent : 0 < (Wire.replies t).length
  limited : ((Wire.replies t).length : Int) ≤ config.maxAttempts
  later : ∀ (n : Nat) (reply : Reply), (Wire.replies t)[n]? = some reply →
    n + 1 < (Wire.replies t).length → Backoff.Transient (reply.result config.nesting method)
  last : ∀ (n : Nat) (reply : Reply), (Wire.replies t)[n]? = some reply →
    n + 1 = (Wire.replies t).length → reply.result config.nesting method = r
  used : Backoff.Transient r → ((Wire.replies t).length : Int) = config.maxAttempts

/-- A call that can write its request sends it until a reply gives no transport error, or no attempt
is left. -/
theorem call_given (hleast : 1 ≤ config.maxAttempts) (hmost : config.maxAttempts ≤ 1025)
    (hd : config.destination = .absolute) (hwritable : Json.allWritable params = true)
    (hrun : Run (call Wire.host Wire.transport config method params) t r) :
    Given config method t r := by
  obtain ⟨tries, htries⟩ := Backoff.attempts_iff.1 hrun
  have hlimit : (backoff config).maxAttempts.toNat = config.maxAttempts.toNat := rfl
  rw [hlimit] at htries
  have hresults := tries_replies hd hwritable _ htries.forall_run
  rw [← replies_tried htries] at hresults
  obtain ⟨earlier, last, rfl, hlength, htransient, -, hlast⟩ := htries.eq_concat (by omega)
  obtain ⟨rfl, hused⟩ := (concludes_iff hmost rfl).1 hlast
  have hcount : (Wire.replies t).length = earlier.length + 1 := by
    simpa using (congrArg List.length hresults).symm
  have hgives : ∀ (n : Nat) (reply : Reply), (Wire.replies t)[n]? = some reply →
      ((earlier ++ [last]).map Backoff.Try.result)[n]? =
        some (reply.result config.nesting method) := by
    intro n reply hreply
    rw [hresults, List.getElem?_map, hreply]
    rfl
  refine ⟨by omega, by omega, ?_, ?_, fun h => ?_⟩
  · intro n reply hreply hn
    have hlater : n < earlier.length := by omega
    have hgive := hgives n reply hreply
    rw [List.getElem?_map, List.getElem?_append_left hlater, List.getElem?_eq_getElem hlater] at hgive
    rw [← Option.some.inj hgive]
    exact htransient _ (List.getElem_mem hlater)
  · intro n reply hreply hn
    obtain rfl : n = earlier.length := by omega
    have hgive := hgives _ reply hreply
    rw [List.getElem?_map, List.getElem?_concat_length] at hgive
    exact (Option.some.inj hgive).symm
  · have hall := hused h
    omega

/-- A call whose replies give what their outcomes should end with resends as it should. -/
theorem Given.resends (h : Given config method t r)
    (hsame : ∀ request reply, Wire.Event.transport (.posted request reply) ∈ t →
      request.method = method ∧ request.params = params)
    (hends : ∀ (n : Nat) (reply : Reply), (Wire.replies t)[n]? = some reply →
      (outcomes n).Ends method (reply.result config.nesting method)) :
    Resends config.maxAttempts method params outcomes t r := by
  constructor
  · intro n hn
    have hreply : (Wire.replies t)[n]? = some (Wire.replies t)[n] := List.getElem?_eq_getElem hn
    have hend := (hends n _ hreply).transient_iff
    have hlimited := h.limited
    constructor
    · intro hmore
      exact ⟨by omega, hend.1 (h.later n _ hreply hmore)⟩
    · intro ⟨hleft, hpassing⟩
      by_contra hnot
      have hlast := h.last n _ hreply (by omega)
      have hused := h.used (hlast ▸ hend.2 hpassing)
      omega
  · intro n hn
    have hreply : (Wire.replies t)[n]? = some (Wire.replies t)[n] :=
      List.getElem?_eq_getElem (by omega)
    rw [← h.last n _ hreply hn]
    exact hends n _ hreply
  · exact hsame
  · exact fun _ => List.length_pos_iff.1 h.sent

/-- A request is sent again exactly if the outcome may be another then and attempts are left, and
otherwise the call ends with it, as long as no body is misread, and only then. -/
theorem resent_iff (hleast : 1 ≤ config.maxAttempts) (hmost : config.maxAttempts ≤ 1025)
    (hd : config.destination = .absolute)
    (hrun : Run (call Wire.host Wire.transport config method params) t r)
    (hshown : Shown outcomes t) :
    Resends config.maxAttempts method params outcomes t r ↔
      ∀ (n : Nat) (reply : Reply), (Wire.replies t)[n]? = some reply →
        ¬ reply.Misread config.nesting method (outcomes n) := by
  have hsame : ∀ request reply, Wire.Event.transport (.posted request reply) ∈ t →
      request.method = method ∧ request.params = params := by
    intro request reply hposted
    cases call_own hrun _ hposted with
    | posted => exact ⟨rfl, rfl⟩
  cases hwritable : Json.allWritable params with
  | false =>
    -- no request is sent at all
    have hnone : Wire.replies t = [] := by
      obtain ⟨tries, htries⟩ := Backoff.attempts_iff.1 hrun
      rw [replies_tried htries]
      exact List.flatMap_eq_nil_iff.2 fun a ha => tries_silent hd hwritable (htries.forall_run a ha)
    exact iff_of_true ⟨by simp [hnone], by simp [hnone], hsame, by simp [hwritable]⟩ (by simp [hnone])
  | true =>
    have hgiven := call_given hleast hmost hd hwritable hrun
    constructor
    · intro hresends n reply hreply
      rw [← (hshown n reply hreply).ends_iff]
      have hn := (List.getElem?_eq_some_iff.1 hreply).1
      exact hresends.ends_at hn (hgiven.later n reply hreply) (hgiven.last n reply hreply)
    · intro hread
      refine hgiven.resends hsame fun n reply hreply => ?_
      exact (hshown n reply hreply).ends_iff.2 (hread n reply hreply)

/-! ## Three replies, and one -/

/-- A try that is answered with a reply. -/
def answered (config : SessionConfig Float) (method : String) (params : List Json) (id : Nat)
    (reply : Reply) : Backoff.Try (Wire.Event Float) Json where
  trace := [.transport (.numbered id), .host (.logged ⟨.debug, .endpoint, s!"RPC {method} id={id}"⟩),
    .transport (.posted ⟨id, method, params⟩ reply)]
  result := reply.taken config method

/-- Whatever replies are given, there is a call that is answered with them. -/
theorem exists_call (hd : config.destination ≠ .invalid) (hwritable : Json.allWritable params = true)
    (given : Nat → Reply) (hgenuine : ∀ n, (given n).Genuine) :
    ∃ t r, Run (call Wire.host Wire.transport config method params) t r ∧
      ∀ (n : Nat) (reply : Reply), (Wire.replies t)[n]? = some reply → reply = given n := by
  obtain ⟨made, t, r, htries⟩ := Backoff.exists_tried (backoff config) method
    (fun n => answered config method params n (given n))
    (fun n => exchange_of_reply (given n) n hd hwritable (hgenuine n))
    (backoff config).maxAttempts.toNat 0
  have hreplies : Wire.replies t = (List.range' 0 made).map given := by
    rw [replies_tried htries, List.flatMap_map]
    exact List.flatMap_pure_eq_map given _
  refine ⟨t, r, htries.run, ?_⟩
  intro n reply hreply
  rw [hreplies, List.getElem?_map] at hreply
  obtain ⟨k, hk, rfl⟩ := Option.map_eq_some_iff.1 hreply
  obtain ⟨_, rfl⟩ := List.getElem?_eq_some_iff.1 hk
  simp

end

/-- The error that a body tells, if it tells nothing else. -/
def onlyError? : Except Json.Fault Json → Option (Int × String)
  | .ok (.object [("error", .object [("code", .int code), ("message", .text message)])]) =>
    some (code, message)
  | _ => none

theorem shows_error {source message : String} {code : Int}
    (htext : Json.bodyText? (Text.Utf8.encode source) = some source)
    (hletters : Json.Wordless source.toList)
    (h : onlyError? (Json.parse Capacity.standard.nesting source) = some (code, message)) :
    (Reply.response 200 (Text.Utf8.encode source)).Shows (.failed ⟨code, message, .null⟩) ∧
      ∀ method, ¬ (Reply.response 200 (Text.Utf8.encode source)).Misread Capacity.standard.nesting
        method (.failed ⟨code, message, .null⟩) := by
  unfold onlyError? at h
  split at h
  · next hread =>
    cases h
    refine ⟨.failed (by decide) (Json.isBody_of_parse htext hletters hread) rfl
      ⟨rfl, rfl, rfl, nofun⟩, fun method => ?_⟩
    exact Reply.not_misread ((Json.parseBody_of_text htext _).trans hread) nofun
  · cases h

/-- A gateway that answers in HTML, a node that is behind, and one that does not know the block
hash. -/
def troubled : Nat → Reply
  | 0 => .response 200 (Text.Utf8.encode "<html>")
  | 1 => .response 200 (Text.Utf8.encode
    "\x7b\"error\":\x7b\"code\":-32005,\"message\":\"behind by 42 slots\"\x7d\x7d")
  | _ => .response 200 (Text.Utf8.encode
    "\x7b\"error\":\x7b\"code\":-32002,\"message\":\"Blockhash not found\"\x7d\x7d")

/-- What these replies come to. -/
def troubles : Nat → Reply.Outcome
  | 0 => .malformed
  | 1 => .failed ⟨-32005, "behind by 42 slots", .null⟩
  | _ => .failed ⟨-32002, "Blockhash not found", .null⟩

theorem troubled_shows (n : Nat) : (troubled n).Shows (troubles n) ∧
    ∀ method, ¬ (troubled n).Misread Capacity.standard.nesting method (troubles n) := by
  match n with
  | 0 =>
    have hbody : Json.parseBody Capacity.standard.nesting (Text.Utf8.encode "<html>") =
        .error .malformed := rfl
    refine ⟨.malformed (by decide) fun v h => ?_, fun _ => Reply.not_misread_of_malformed hbody⟩
    have hcases := h.parse_cases Capacity.standard.nesting
    rw [hbody] at hcases
    simp at hcases
  | 1 => exact shows_error (by decide +kernel) ⟨by decide, by decide⟩ (by decide +kernel)
  | _ + 2 => exact shows_error (by decide +kernel) ⟨by decide, by decide⟩ (by decide +kernel)

/-- A call that is answered with a page in HTML, then by a node that is behind, and then by one that
does not know the block hash, sends three requests and ends in a stale checkpoint. -/
theorem resent_until_stale : ∃ t,
    Run (call Wire.host Wire.transport (.standard (τ := Float)) "getBlockHeight" []) t
        (.error (.client (.stale (.refused "getBlockHeight" "Blockhash not found")))) ∧
      Wire.replies t = [troubled 0, troubled 1, troubled 2] ∧ Shown troubles t := by
  have hgenuine : ∀ n, (troubled n).Genuine := by
    intro n
    match n with
    | 0 | 1 | _ + 2 => trivial
  obtain ⟨t, r, hrun, hgiven⟩ : ∃ t r,
      Run (call Wire.host Wire.transport (.standard (τ := Float)) "getBlockHeight" []) t r ∧
        ∀ (n : Nat) (reply : Reply), (Wire.replies t)[n]? = some reply → reply = troubled n :=
    exists_call (by decide) rfl troubled hgenuine
  have hshown : Shown troubles t := by
    intro n reply hreply
    rw [hgiven n reply hreply]
    exact (troubled_shows n).1
  have h := (resent_iff (by decide) (by decide) rfl hrun hshown).2 (by
    intro n reply hreply
    rw [hgiven n reply hreply]
    exact (troubled_shows n).2 _)
  have hfirst : 0 < (Wire.replies t).length := List.length_pos_iff.2 (h.sent rfl)
  have hsecond : 1 < (Wire.replies t).length := (h.again 0 hfirst).2 ⟨by decide, trivial⟩
  have hthird : 2 < (Wire.replies t).length :=
    (h.again 1 hsecond).2 ⟨by decide, rfl, by decide, rfl⟩
  have hlast : ¬ 3 < (Wire.replies t).length := fun hmore =>
    absurd ((h.again 2 hthird).1 hmore).1 (by decide)
  have hlength : (Wire.replies t).length = 3 := by omega
  obtain ⟨a, b, c, hreplies⟩ := List.length_eq_three.1 hlength
  have ha := hgiven 0 a (by rw [hreplies]; rfl)
  have hb := hgiven 1 b (by rw [hreplies]; rfl)
  have hc := hgiven 2 c (by rw [hreplies]; rfl)
  have hend : (troubles 2).Ends "getBlockHeight" r := h.ends 2 hlength.symm
  refine ⟨t, ?_, by rw [hreplies, ha, hb, hc], hshown⟩
  cases hend with
  | stale => exact hrun
  | passing fault hpassing => exact absurd hpassing.1 (by decide)
  | rejected rejection hdenied => exact absurd (.inl (by decide)) hdenied

/-- A body of opening brackets, and nothing else. -/
def bracketsReply : Reply := .response 200 (Text.Utf8.encode (Json.brackets 100000))

/-- Brackets that are never closed are no JSON, but they are nested so deeply that reading them ends
in a fault, and no request is sent again. -/
theorem unsent_after_brackets : ∃ t,
    Run (call Wire.host Wire.transport (.standard (τ := Float)) "getBlockHeight" []) t
        (.error (.of .depth)) ∧
      Wire.replies t = [bracketsReply] ∧ bracketsReply.Shows .malformed ∧
      ¬ Resends 3 "getBlockHeight" [] (fun _ => .malformed) t (.error (.of .depth)) := by
  have hbody : Json.parseBody Capacity.standard.nesting
      (Text.Utf8.encode (Json.brackets 100000)) = .error .tooDeep :=
    Json.parseBody_brackets (by decide)
  have htaken : bracketsReply.taken (.standard (τ := Float)) "getBlockHeight" =
      .error (.of .depth) := by
    rw [Reply.taken_of_named SessionConfig.standard_named]
    refine (Reply.result_of_success (by decide)).trans ?_
    rw [show (SessionConfig.standard (τ := Float)).nesting = Capacity.standard.nesting from rfl, hbody]
    rfl
  obtain ⟨t, hrun, ht⟩ : ∃ t,
      Run (call Wire.host Wire.transport (.standard (τ := Float)) "getBlockHeight" []) t
          (.error (.of .depth)) ∧
        Wire.replies t = [bracketsReply] := by
    rw [← htaken]
    refine ⟨_, call_of_reply bracketsReply 1 (by decide) (by decide) rfl trivial ?_, rfl⟩
    rw [htaken]
    rintro _ ⟨⟩
    rfl
  refine ⟨t, hrun, ht, .malformed (by decide) fun v => Json.not_isBody_brackets _, fun h => ?_⟩
  have hagain := h.again 0
  rw [ht] at hagain
  exact absurd ((hagain (by decide)).2 ⟨by decide, trivial⟩) (by decide)

end Session
end StorageAgent
