import StorageAgent.Proofs.Endpoint.Wire

/-!
# Reading replies

What a session makes of a reply, and of the result that it brings. A reply that
tells of an unusable block hash is read as a stale checkpoint, and no other reply
is (`taken_cases`). Whatever else it may be read as calls no checkpoint stale
(`Fresh`).
-/
namespace StorageAgent

/-! ## Failures of a reading -/

/-- A failure that does not call a checkpoint stale. -/
def Fresh (f : Failure) : Prop := f.isStale = false

theorem Failure.fresh_ofPairFault (fault : PairFault) : Fresh (.ofPairFault fault) := by
  cases fault <;> rfl

/-- A reading can fail only so. -/
def FailsOnly {α : Type} (P : Failure → Prop) (x : Except Failure α) : Prop :=
  ∀ ⦃f⦄, x = .error f → P f

section
variable {α β : Type} {P : Failure → Prop}

theorem FailsOnly.ok (a : α) : FailsOnly P (.ok a) := by
  rintro _ ⟨⟩

theorem FailsOnly.error {f : Failure} (h : P f) : FailsOnly P (.error f : Except Failure α) := by
  rintro _ ⟨⟩
  exact h

theorem FailsOnly.bind {x : Except Failure α} {g : α → Except Failure β} (hx : FailsOnly P x)
    (hg : ∀ a, FailsOnly P (g a)) : FailsOnly P (x >>= g) := by
  cases x with
  | ok a => exact hg a
  | error f => exact .error (hx rfl)

end

/-! ## Errors of the client -/

/-- A failure is an error of the client. -/
def Failure.IsClient (f : Failure) : Prop := ∃ error, f = .client error

@[simp]
theorem Failure.isClient_client (error : ClientError) : (Failure.client error).IsClient :=
  ⟨error, rfl⟩

@[simp]
theorem Failure.not_isClient_fault (kind : FaultKind) (message : String) :
    ¬ (Failure.fault kind message).IsClient := by
  rintro ⟨_, ⟨⟩⟩

@[simp]
theorem Failure.not_isClient_of (kind : FaultKind) : ¬ (Failure.of kind).IsClient :=
  not_isClient_fault kind ""

section
variable {α : Type} {P : Failure → Prop}

@[simp]
theorem failsOnly_ok_iff {a : α} : FailsOnly P (.ok a) ↔ True := iff_true_intro (.ok a)

@[simp]
theorem failsOnly_error_iff {f : Failure} : FailsOnly P (.error f : Except Failure α) ↔ P f :=
  ⟨fun h => h rfl, .error⟩

/-- Nothing but errors of the client can go wrong. -/
theorem caught_cases {x : Except Failure α} :
    FailsOnly Failure.IsClient x ↔ (∃ a, x = .ok a) ∨ ∃ error, x = .error (.client error) := by
  cases x with
  | ok a => simp
  | error f => simp [Failure.IsClient]

theorem not_caught (kind : FaultKind) :
    ¬ FailsOnly Failure.IsClient (.error (.of kind) : Except Failure α) :=
  fun h => Failure.not_isClient_of kind (h rfl)

end

/-! ## Errors of an answer -/

theorem Json.isNull_iff {j : Json} : j.isNull = true ↔ j = .null := by
  cases j <;> simp [isNull]

/-- What the error of an answer says is wrong with the transaction, and its logs. -/
def errorData (members : List (String × Json)) : Json × Json :=
  match Json.memberOr members "data" with
  | .object data => (Json.memberOr data "err", Json.memberOr data "logs")
  | _ => (.null, .null)

/-- Whether the error of an answer tells of an unusable block hash. -/
def blockhashDenied : Json → Bool
  | .object members =>
    (match (errorData members).1 with
      | .text s => s == "BlockhashNotFound"
      | _ => false) ||
    isStaleMessage ((Json.member? members "message").getD (.object members)).display
  | _ => false

/-- The failure of an error that does not tell of a block hash, or why it cannot be read. -/
def refusal (method message : String) (error cause logs code : Json) : Except Failure Failure :=
  if !cause.isNull then do
    let rejection ← (Rejection.ofTransactionError cause .null logs).mapError Failure.ofPairFault
    return .client (.rejected rejection)
  else do
    if ← isUnhealthy code then return .client (.transport (.nodeUnhealthy method code message))
    return .client (.rejected {
      message := method ++ ": RPC error " ++ code.display ++ ": " ++ message, reason := error })

theorem rpcFailure_object {method : String} {members : List (String × Json)} :
    rpcFailure method (.object members) =
      let message := ((Json.member? members "message").getD (.object members)).display
      match if blockhashDenied (.object members) then .ok (.client (.stale (.refused method message)))
        else refusal method message (.object members) (errorData members).1 (errorData members).2
          (Json.memberOr members "code") with
      | .ok failure => failure
      | .error failure => failure := rfl

theorem isUnhealthy_error {code : Json} {f : Failure} (h : isUnhealthy code = .error f) :
    f = .of .wrongKind := by
  cases code <;> cases h <;> rfl

theorem refusal_fresh {method message : String} {error cause logs code : Json} {f : Failure}
    (h : refusal method message error cause logs code = .ok f ∨
      refusal method message error cause logs code = .error f) : Fresh f := by
  rw [refusal] at h
  split at h
  · cases hr : Rejection.ofTransactionError cause .null logs with
    | ok rejection =>
      rw [hr] at h
      obtain ⟨⟨⟩⟩ | ⟨⟨⟩⟩ := h
      rfl
    | error fault =>
      rw [hr] at h
      obtain ⟨⟨⟩⟩ | ⟨⟨⟩⟩ := h
      exact Failure.fresh_ofPairFault fault
  · cases hu : isUnhealthy code with
    | ok unhealthy =>
      rw [hu] at h
      cases unhealthy with
      | false =>
        obtain ⟨⟨⟩⟩ | ⟨⟨⟩⟩ := h
        rfl
      | true =>
        obtain ⟨⟨⟩⟩ | ⟨⟨⟩⟩ := h
        rfl
    | error failure =>
      rw [hu] at h
      obtain ⟨⟨⟩⟩ | ⟨⟨⟩⟩ := h
      rw [isUnhealthy_error hu]
      rfl

/-- The error of an answer is read as a stale checkpoint exactly if it tells of a block hash. -/
theorem rpcFailure_cases (method : String) (error : Json) :
    (blockhashDenied error = true ∧
      ∃ message, rpcFailure method error = .client (.stale (.refused method message))) ∨
    (blockhashDenied error = false ∧ Fresh (rpcFailure method error)) := by
  cases error with
  | object members =>
    rw [rpcFailure_object]
    cases hd : blockhashDenied (.object members) with
    | true => exact .inl ⟨rfl, _, rfl⟩
    | false =>
      refine .inr ⟨rfl, ?_⟩
      dsimp only
      rw [if_neg (by decide)]
      split
      · rename_i hf
        exact refusal_fresh (.inl hf)
      · rename_i hf
        exact refusal_fresh (.inr hf)
  | _ => exact .inr ⟨rfl, rfl⟩

/-! ## Replies -/

/-- Whether a reply tells of an unusable block hash. -/
def Reply.deniesBlockhash (nesting : Nat) : Reply → Bool
  | response status body =>
    decide (status < 400) &&
      match Json.parseBody nesting body with
      | .ok (.object members) =>
        match Json.member? members "error" with
        | some error => blockhashDenied error
        | none => false
      | _ => false
  | _ => false

theorem answerResult_cases (method : String) (members : List (String × Json)) :
    (∃ error, Json.member? members "error" = some error ∧
      answerResult method (.object members) = .error (rpcFailure method error)) ∨
    (Json.member? members "error" = none ∧
      answerResult method (.object members) = .ok (Json.memberOr members "result")) := by
  cases he : Json.member? members "error" with
  | some error =>
    refine .inl ⟨error, rfl, ?_⟩
    simp only [answerResult, answerError?, he]
    rfl
  | none =>
    refine .inr ⟨rfl, ?_⟩
    simp only [answerResult, answerError?, he]
    rfl

/-- An answer that is no object has no error, and no result either. -/
theorem answerResult_failsOnly {method : String} {answer : Json}
    (hn : ∀ members, answer ≠ .object members) : FailsOnly Fresh (answerResult method answer) := by
  cases answer with
  | object members => exact absurd rfl (hn members)
  | list items =>
    rw [answerResult, answerError?]
    split
    · exact .error rfl
    · exact .error rfl
  | text s =>
    rw [answerResult, answerError?]
    split
    · exact .error rfl
    · exact .error rfl
  | _ => exact .error rfl

theorem result_cases (nesting : Nat) (method : String) {reply : Reply} (hgenuine : reply.Genuine) :
    (reply.deniesBlockhash nesting = true ∧
      ∃ message, reply.result nesting method = .error (.client (.stale (.refused method message)))) ∨
    (reply.deniesBlockhash nesting = false ∧ FailsOnly Fresh (reply.result nesting method)) := by
  cases reply with
  | unreachable kind message => exact .inr ⟨rfl, .error rfl⟩
  | broken f =>
    obtain ⟨kind, message, rfl⟩ := hgenuine
    exact .inr ⟨rfl, .error rfl⟩
  | response status body =>
    rw [Reply.result, Reply.deniesBlockhash]
    by_cases h₁ : status = 429 ∨ 500 ≤ status
    · rw [if_pos h₁]
      exact .inr ⟨by simp; omega, .error rfl⟩
    rw [if_neg h₁]
    by_cases h₂ : 400 ≤ status
    · rw [if_pos h₂]
      exact .inr ⟨by simp; omega, .error rfl⟩
    rw [if_neg h₂, decide_eq_true (by omega), Bool.true_and]
    cases hp : Json.parseBody nesting body with
    | error fault =>
      cases fault with
      | tooDeep => exact .inr ⟨rfl, .error rfl⟩
      | _ => exact .inr ⟨rfl, .error rfl⟩
    | ok answer =>
      cases answer with
      | object members =>
        dsimp only
        rcases answerResult_cases method members with ⟨error, he, hr⟩ | ⟨he, hr⟩
        · rw [he, hr]
          dsimp only
          rcases rpcFailure_cases method error with ⟨hd, message, hf⟩ | ⟨hd, hf⟩
          · exact .inl ⟨hd, message, by rw [hf]⟩
          · exact .inr ⟨hd, .error hf⟩
        · rw [he, hr]
          exact .inr ⟨rfl, .ok _⟩
      | _ => exact .inr ⟨rfl, answerResult_failsOnly (by rintro _ ⟨⟩)⟩

/-- A reply is read as a stale checkpoint exactly if it tells of an unusable block hash and its
sender has a name. -/
theorem taken_cases {τ : Type} (config : SessionConfig τ) (method : String) {reply : Reply}
    (hgenuine : reply.Genuine) :
    ((config.destination ≠ .relative ∧ reply.deniesBlockhash config.nesting = true) ∧ ∃ message,
      reply.taken config method = .error (.client (.stale (.refused method message)))) ∨
    (¬ (config.destination ≠ .relative ∧ reply.deniesBlockhash config.nesting = true) ∧
      FailsOnly Fresh (reply.taken config method)) := by
  rw [Reply.taken]
  by_cases hd : config.destination = .relative ∧ reply.isResponse = true
  · rw [if_pos hd]
    exact .inr ⟨fun h => h.1 hd.1, .error rfl⟩
  rw [if_neg hd]
  rcases result_cases config.nesting method hgenuine with ⟨hb, hm⟩ | ⟨hb, hf⟩
  · refine .inl ⟨⟨fun h => hd ⟨h, ?_⟩, hb⟩, hm⟩
    cases reply with
    | response status body => rfl
    | _ => cases hb
  · exact .inr ⟨by simp [hb], hf⟩

/-- What a reply can be read as, other than a result. -/
theorem taken_failsOnly {τ : Type} {config : SessionConfig τ} {method : String} {reply : Reply}
    (hgenuine : reply.Genuine) :
    FailsOnly (fun f => Fresh f ∨ ∃ message, f = .client (.stale (.refused method message)))
      (reply.taken config method) := by
  rcases taken_cases config method hgenuine with ⟨-, message, hs⟩ | ⟨-, hf⟩
  · rw [hs]
    exact .error (.inr ⟨message, rfl⟩)
  · exact fun f h => .inl (hf h)

/-- The text that a reading brings, if it brings one. -/
def textOf? : Except Failure Json → Option String
  | .ok (.text s) => some s
  | _ => none

theorem textOf?_eq_some {x : Except Failure Json} {s : String} (h : textOf? x = some s) :
    x = .ok (.text s) := by
  unfold textOf? at h
  split at h
  · rw [Option.some.inj h]
  · cases h

/-- The reply of a node that accepts a transaction. -/
def Reply.signed : Reply := .response 200 (Text.Utf8.encode "\x7b\"result\":\"signature\"\x7d")

theorem Reply.signed_result :
    signed.result Capacity.standard.nesting "sendTransaction" = .ok (.text "signature") :=
  textOf?_eq_some (by decide +kernel)

theorem Reply.signed_taken {τ : Type} [Seconds τ] :
    signed.taken (.standard : SessionConfig τ) "sendTransaction" = .ok (.text "signature") :=
  (taken_of_named SessionConfig.standard_named _ _).trans signed_result

/-! ## Results -/

namespace Result

theorem json_membersOf_failsOnly (j : Json) : FailsOnly Fresh j.membersOf := by
  cases j with
  | object members => exact .ok _
  | _ => exact .error rfl

theorem value_failsOnly (result : Json) : FailsOnly Fresh (value result) := by
  refine FailsOnly.bind ?_ fun members => .ok _
  rw [membersOf]
  split
  · exact json_membersOf_failsOnly result
  · exact .ok _

theorem firstOf_failsOnly (j : Json) : FailsOnly Fresh (firstOf j) := by
  rw [firstOf.eq_def]
  split
  · exact .ok _
  · split
    · exact .ok _
    · exact .error rfl
  · exact .error rfl
  · exact .error rfl

theorem signature_failsOnly (result : Json) : FailsOnly Fresh (signature result) := by
  rw [signature]
  split
  · exact .ok _
  · exact .error rfl

theorem status_failsOnly (result : Json) : FailsOnly Fresh (status result) := by
  have hfirst : ∀ first : Json, FailsOnly Fresh (if first.isNull then .ok none
      else SignatureStatus.ofJson first >>= fun status => .ok (some status)) := by
    intro first
    split
    · exact .ok _
    · refine FailsOnly.bind ?_ fun status => .ok _
      cases first with
      | object members => exact .ok _
      | _ => exact .error rfl
  refine (value_failsOnly result).bind fun value => ?_
  dsimp only
  split
  · exact (firstOf_failsOnly value).bind hfirst
  · exact hfirst .null

theorem height_failsOnly (result : Json) : FailsOnly Fresh (height result) := by
  rw [height]
  split
  · exact .ok _
  · exact .error rfl
  · exact .error rfl
  · exact .error rfl

end Result
end StorageAgent
