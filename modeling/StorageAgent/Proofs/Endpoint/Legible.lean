import StorageAgent.Proofs.Endpoint.Reading
import StorageAgent.Proofs.Seconds

/-!
# Which replies can be read

Whatever the endpoint replies, a question to it should end in a value or in an error of the client.
It does if the last reply has the shape that the session knows: an answer is an object, so is its
error, and the result is what the method promises. A reply of another shape ends in a fault.

* `Reply.Legible`: the shape of a reply, up to what the method says about its result.
* `taken_caught_iff`: a reply is read without a fault exactly if it is legible.
* `asked_caught_iff`: the same for a whole question, with all its requests.
* `escaped_null_error`: the answer mentions an error that is null, and the question ends in a fault.
-/
namespace StorageAgent

open Behaviour

/-! ## Shapes of values -/

namespace Json

/-- A value has these members: an object has its own, and a missing or empty value has none. -/
inductive Opens : Json → List (String × Json) → Prop where
  | nothing {j : Json} (h : j.isTruthy = false) : Opens j []
  | object (members : List (String × Json)) : Opens (.object members) members

/-- How many parts a value has. -/
def size? : Json → Option Nat
  | list items => some items.length
  | text s => some s.toList.length
  | object members => some members.length
  | _ => none

/-- What is wrong with a transaction is told in a known way: beside `InstructionError` stands a
pair. -/
def NamesFault (cause : Json) : Prop :=
  ∀ members value, cause = .object members → member? members "InstructionError" = some value →
    value.size? = some 2

/-- A value is neither a list nor an object. -/
def IsPlain (j : Json) : Prop := (∀ items, j ≠ .list items) ∧ ∀ members, j ≠ .object members

/-- The error of an answer is an object that tells of the block hash, of what is wrong with the
transaction, or at least a code. -/
inductive TellsError : Json → Prop where
  | denied {members : List (String × Json)} (h : blockhashDenied (.object members) = true) :
      TellsError (.object members)
  | cause {members : List (String × Json)} (hcause : (errorData members).1.isNull = false)
      (h : NamesFault (errorData members).1) : TellsError (.object members)
  | code {members : List (String × Json)} (hcause : (errorData members).1.isNull = true)
      (h : IsPlain (memberOr members "code")) : TellsError (.object members)

/-- An answer is an object that tells of an error, or has a fitting result. -/
inductive Answers (fits : Json → Prop) : Json → Prop where
  | error {members : List (String × Json)} {error : Json}
      (herror : member? members "error" = some error) (h : TellsError error) :
      Answers fits (.object members)
  | result {members : List (String × Json)} (herror : member? members "error" = none)
      (h : fits (memberOr members "result")) : Answers fits (.object members)

end Json

/-- There was no response, or one from a sender with a name, and its status says that it failed, its
body is no JSON, or the body is an answer. -/
inductive Reply.Legible {τ : Type} (config : SessionConfig τ) (fits : Json → Prop) : Reply → Prop where
  | unreachable (kind message : String) : Legible config fits (.unreachable kind message)
  | refused {status : Int} {body : Bytes} (hd : config.destination ≠ .relative) (h : 400 ≤ status) :
      Legible config fits (.response status body)
  | malformed {status : Int} {body : Bytes} {fault : Json.Fault} (hd : config.destination ≠ .relative)
      (h : Json.parseBody config.nesting body = .error fault) (hfault : fault ≠ .tooDeep) :
      Legible config fits (.response status body)
  | answered {status : Int} {body : Bytes} {answer : Json} (hd : config.destination ≠ .relative)
      (h : Json.parseBody config.nesting body = .ok answer) (hanswer : answer.Answers fits) :
      Legible config fits (.response status body)

/-! ## Reading an answer -/

/-- Two parts can be taken apart, and no other number of them. -/
theorem Json.pair_isOk_iff {value : Json} :
    (∃ parts, value.pair = .ok parts) ↔ value.size? = some 2 := by
  cases value with
  | list items =>
    match items with
    | [a, b] => simp [pair, size?]
    | [] | [_] | _ :: _ :: _ :: _ => simp [pair, size?]
  | text s =>
    simp only [pair, size?]
    generalize s.toList = chars
    match chars with
    | [a, b] => simp
    | [] | [_] | _ :: _ :: _ :: _ => simp
  | object members =>
    match members with
    | [a, b] => simp [pair, size?]
    | [] | [_] | _ :: _ :: _ :: _ => simp [pair, size?]
  | _ => simp [pair, size?]

theorem TransactionError.ofJson_isOk_iff {cause : Json} :
    (∃ e, ofJson cause = .ok e) ↔ cause.NamesFault := by
  cases cause with
  | object members =>
    rw [ofJson]
    cases hvalue : Json.member? members "InstructionError" with
    | none =>
      refine iff_of_true ⟨_, rfl⟩ fun _ value hobject hsome => ?_
      cases hobject
      rw [hvalue] at hsome
      cases hsome
    | some value =>
      have hnames : (Json.object members).NamesFault ↔ value.size? = some 2 := by
        constructor
        · intro h
          exact h members value rfl hvalue
        · intro h _ other hobject hsome
          cases hobject
          rw [hvalue, Option.some.injEq] at hsome
          rwa [← hsome]
      rw [hnames, ← Json.pair_isOk_iff]
      cases hpair : value.pair with
      | ok parts => simp [hpair, Except.map]
      | error fault => simp [hpair, Except.map]
  | _ => exact iff_of_true ⟨_, rfl⟩ nofun

theorem Failure.not_isClient_ofPairFault (fault : PairFault) :
    ¬ (Failure.ofPairFault fault).IsClient := by
  cases fault with
  | notMany => exact not_isClient_of _
  | notTwo => exact not_isClient_of _

theorem isUnhealthy_isOk_iff {code : Json} :
    (∃ unhealthy, isUnhealthy code = .ok unhealthy) ↔ code.IsPlain := by
  cases code <;> simp [isUnhealthy, Json.IsPlain]

/-- What a refusal stands for, whether it can be read or not. -/
theorem refusal_isClient_iff {method message : String} {error cause logs code : Json} {f : Failure}
    (h : refusal method message error cause logs code = .ok f ∨
      refusal method message error cause logs code = .error f) :
    f.IsClient ↔
      (cause.isNull = false ∧ cause.NamesFault) ∨ (cause.isNull = true ∧ code.IsPlain) := by
  rw [refusal] at h
  cases hcause : cause.isNull with
  | false =>
    rw [hcause, if_pos (by decide), Rejection.ofTransactionError] at h
    rw [← TransactionError.ofJson_isOk_iff]
    cases hread : TransactionError.ofJson cause with
    | ok e =>
      rw [hread] at h
      obtain ⟨⟨⟩⟩ | ⟨⟨⟩⟩ := h
      simp
    | error fault =>
      rw [hread] at h
      obtain ⟨⟨⟩⟩ | ⟨⟨⟩⟩ := h
      simp [Failure.not_isClient_ofPairFault]
  | true =>
    rw [hcause, if_neg (by decide)] at h
    rw [← isUnhealthy_isOk_iff]
    cases hcode : isUnhealthy code with
    | ok unhealthy =>
      rw [hcode] at h
      cases unhealthy with
      | false =>
        obtain ⟨⟨⟩⟩ | ⟨⟨⟩⟩ := h
        simp
      | true =>
        obtain ⟨⟨⟩⟩ | ⟨⟨⟩⟩ := h
        simp
    | error failure =>
      rw [hcode] at h
      obtain ⟨⟨⟩⟩ | ⟨⟨⟩⟩ := h
      simp [isUnhealthy_error hcode]

/-- The failure that an error stands for is one of the client exactly if the error tells it in a
known way. -/
theorem rpcFailure_isClient_iff {method : String} {error : Json} :
    (rpcFailure method error).IsClient ↔ error.TellsError := by
  cases error with
  | object members =>
    have htells : (Json.object members).TellsError ↔ blockhashDenied (.object members) = true ∨
        ((errorData members).1.isNull = false ∧ (errorData members).1.NamesFault) ∨
          ((errorData members).1.isNull = true ∧ (Json.memberOr members "code").IsPlain) := by
      constructor
      · intro h
        cases h with
        | denied h => exact .inl h
        | cause hcause h => exact .inr (.inl ⟨hcause, h⟩)
        | code hcause h => exact .inr (.inr ⟨hcause, h⟩)
      · rintro (h | ⟨hcause, h⟩ | ⟨hcause, h⟩)
        · exact .denied h
        · exact .cause hcause h
        · exact .code hcause h
    rw [htells, rpcFailure_object]
    dsimp only
    cases hdenied : blockhashDenied (.object members) with
    | true => exact iff_of_true ⟨_, rfl⟩ (.inl rfl)
    | false =>
      rw [if_neg (by decide), or_iff_right (by decide)]
      split
      · next hf => exact refusal_isClient_iff (.inl hf)
      · next hf => exact refusal_isClient_iff (.inr hf)
  | _ => exact iff_of_false (Failure.not_isClient_of _) nofun

/-- What is no object is no answer. -/
theorem answerResult_fault (method : String) {answer : Json}
    (hn : ∀ members, answer ≠ .object members) :
    ∃ kind, answerResult method answer = .error (.of kind) := by
  cases answer with
  | object members => exact absurd rfl (hn members)
  | list items =>
    rw [answerResult, answerError?]
    split
    · exact ⟨.wrongKind, rfl⟩
    · exact ⟨.noMember, rfl⟩
  | text s =>
    rw [answerResult, answerError?]
    split
    · exact ⟨.wrongKind, rfl⟩
    · exact ⟨.noMember, rfl⟩
  | _ => exact ⟨.wrongKind, rfl⟩

section
variable {τ α : Type} {method : String} {config : SessionConfig τ}
  {read : Json → Except Failure α} {fits : Json → Prop}

/-- An answer is read without a fault exactly if it is one. -/
theorem answerResult_caught_iff {answer : Json}
    (hread : ∀ result, FailsOnly Failure.IsClient (read result) ↔ fits result) :
    FailsOnly Failure.IsClient (answerResult method answer >>= read) ↔ answer.Answers fits := by
  by_cases hobject : ∃ members, answer = .object members
  · obtain ⟨members, rfl⟩ := hobject
    rcases answerResult_cases method members with ⟨error, herror, hr⟩ | ⟨herror, hr⟩
    · have hanswers : (Json.object members).Answers fits ↔ error.TellsError := by
        constructor
        · intro h
          cases h with
          | error hsome h =>
            rw [herror, Option.some.injEq] at hsome
            rwa [hsome]
          | result hnone =>
            rw [herror] at hnone
            cases hnone
        · intro h
          exact .error herror h
      rw [hr, hanswers]
      exact failsOnly_error_iff.trans rpcFailure_isClient_iff
    · have hanswers : (Json.object members).Answers fits ↔
          fits (Json.memberOr members "result") := by
        constructor
        · intro h
          cases h with
          | error hsome =>
            rw [herror] at hsome
            cases hsome
          | result _ h => exact h
        · intro h
          exact .result herror h
      rw [hr, hanswers]
      exact hread _
  · obtain ⟨kind, hr⟩ := answerResult_fault method
      fun members h => hobject ⟨members, h⟩
    rw [hr]
    refine iff_of_false (fun h => Failure.not_isClient_of kind (h rfl)) fun h => hobject ?_
    cases h with
    | error => exact ⟨_, rfl⟩
    | result => exact ⟨_, rfl⟩

theorem Reply.legible_response_iff {status : Int} {body : Bytes} :
    (Reply.response status body).Legible config fits ↔
      config.destination ≠ .relative ∧ (400 ≤ status ∨
        (∃ fault, Json.parseBody config.nesting body = .error fault ∧ fault ≠ .tooDeep) ∨
          ∃ answer, Json.parseBody config.nesting body = .ok answer ∧ answer.Answers fits) := by
  constructor
  · intro h
    cases h with
    | refused hd h => exact ⟨hd, .inl h⟩
    | malformed hd h hfault => exact ⟨hd, .inr (.inl ⟨_, h, hfault⟩)⟩
    | answered hd h hanswer => exact ⟨hd, .inr (.inr ⟨_, h, hanswer⟩)⟩
  · rintro ⟨hd, h | ⟨fault, h, hfault⟩ | ⟨answer, h, hanswer⟩⟩
    · exact .refused hd h
    · exact .malformed hd h hfault
    · exact .answered hd h hanswer

/-- A reply is read without a fault exactly if it is legible. -/
theorem taken_caught_iff {reply : Reply} (hgenuine : reply.Genuine)
    (hread : ∀ result, FailsOnly Failure.IsClient (read result) ↔ fits result) :
    FailsOnly Failure.IsClient (reply.taken config method >>= read) ↔
      reply.Legible config fits := by
  cases reply with
  | unreachable kind message =>
    have htaken : (Reply.unreachable kind message).taken config method =
        .error (.client (.transport (.unreachable method kind message))) := by
      simp [Reply.taken, Reply.isResponse, Reply.result]
    rw [htaken]
    exact iff_of_true (.error ⟨_, rfl⟩) (.unreachable kind message)
  | broken f =>
    obtain ⟨kind, message, rfl⟩ := hgenuine
    have htaken : (Reply.broken (.fault kind message)).taken config method =
        .error (.fault kind message) := by
      simp [Reply.taken, Reply.isResponse, Reply.result]
    rw [htaken]
    refine iff_of_false (fun h => Failure.not_isClient_fault kind message (h rfl)) fun h => ?_
    cases h
  | response status body =>
    rw [Reply.legible_response_iff]
    by_cases hd : config.destination = .relative
    · rw [Reply.taken, if_pos ⟨hd, rfl⟩]
      exact iff_of_false (not_caught _) fun h => h.1 hd
    rw [and_iff_right hd, Reply.taken, if_neg fun h => hd h.1, Reply.result]
    by_cases hrefused : 400 ≤ status
    · refine iff_of_true ?_ (.inl hrefused)
      split
      · exact .error ⟨_, rfl⟩
      · exact .error ⟨_, rfl⟩
    rw [if_neg (by omega), if_neg hrefused, or_iff_right hrefused]
    cases hbody : Json.parseBody config.nesting body with
    | ok answer =>
      refine (answerResult_caught_iff hread).trans ?_
      simp
    | error fault =>
      cases fault with
      | tooDeep => exact iff_of_false (not_caught _) (by simp)
      | _ => exact iff_of_true (.error ⟨_, rfl⟩) (.inl ⟨_, rfl, by decide⟩)

end

/-! ## Reading a result -/

namespace Result

variable {result : Json}

/-- The result of a question about the block hash: no hash, or the text of one. -/
def TellsCheckpoint (result : Json) : Prop :=
  ∃ members, result.Opens members ∧ ∃ inner, (Json.memberOr members "value").Opens inner ∧
    ((Json.memberOr inner "blockhash").isTruthy = false ∨
      ∃ s hash, Json.memberOr inner "blockhash" = .text s ∧ Blockhash.parse s = .ok hash)

/-- The result of a question about a signature: nothing, or a list that begins with null or with a
status. -/
def TellsStatus (result : Json) : Prop :=
  ∃ members, result.Opens members ∧
    ((Json.memberOr members "value").isTruthy = false ∨ ∃ first rest,
      Json.memberOr members "value" = .list (first :: rest) ∧
        (first = .null ∨ ∃ status, first = .object status))

/-- The result of a question about the block height: what stands for an integer. -/
def TellsHeight (result : Json) : Prop := ∃ n, result.toInteger = .ok n

/-- The first part of a value is this text. -/
inductive Begins : Json → String → Prop where
  | list (s : String) (rest : List Json) : Begins (.list (.text s :: rest)) s
  | text {s : String} {c : Char} {rest : List Char} (h : s.toList = c :: rest) :
      Begins (.text s) (String.singleton c)

/-- The result of a question about an account: no account, or one without data or with data in
base64. -/
def TellsAccount (result : Json) : Prop :=
  ∃ members, result.Opens members ∧
    (Json.memberOr members "value" = .null ∨ ∃ inner, Json.memberOr members "value" = .object inner ∧
      ((Json.memberOr inner "data").isTruthy = false ∨
        ∃ s bytes, Begins (Json.memberOr inner "data") s ∧ Base64.decode s = .ok bytes))

theorem membersOf_eq_ok_iff {j : Json} {members : List (String × Json)} :
    membersOf j = .ok members ↔ j.Opens members := by
  rw [membersOf]
  constructor
  · intro h
    split at h
    · cases j with
      | object inner =>
        cases h
        exact .object _
      | _ => cases h
    · next hnot =>
      cases h
      exact .nothing (by simpa using hnot)
  · intro h
    cases h with
    | nothing h => rw [h, if_neg (by decide)]
    | object =>
      cases members with
      | nil => rfl
      | cons m members => rfl

section
variable {α : Type} {j : Json} {read : List (String × Json) → Except Failure α}

theorem membersOf_error {f : Failure} (h : membersOf j = .error f) : ¬ f.IsClient := by
  rw [membersOf] at h
  split at h
  · cases j with
    | object inner => cases h
    | _ =>
      cases h
      exact Failure.not_isClient_of _
  · cases h

/-- Members are read without a fault exactly if there are members, and they are. -/
theorem opened_caught_iff : FailsOnly Failure.IsClient (membersOf j >>= read) ↔
    ∃ members, j.Opens members ∧ FailsOnly Failure.IsClient (read members) := by
  cases h : membersOf j with
  | error f =>
    refine iff_of_false (fun hcaught => membersOf_error h (hcaught rfl)) ?_
    rintro ⟨members, hopens, -⟩
    rw [membersOf_eq_ok_iff.2 hopens] at h
    cases h
  | ok members =>
    constructor
    · intro hcaught
      exact ⟨members, membersOf_eq_ok_iff.1 h, hcaught⟩
    · rintro ⟨others, hopens, hcaught⟩
      rw [membersOf_eq_ok_iff.2 hopens] at h
      cases h
      exact hcaught

end

theorem checkpoint_caught_iff :
    FailsOnly Failure.IsClient (checkpoint result) ↔ TellsCheckpoint result := by
  unfold checkpoint value TellsCheckpoint
  simp only [bind_assoc, pure_bind]
  rw [opened_caught_iff]
  refine exists_congr fun members => and_congr_right fun _ => ?_
  rw [opened_caught_iff]
  refine exists_congr fun inner => and_congr_right fun _ => ?_
  cases hhash : (Json.memberOr inner "blockhash").isTruthy with
  | false => exact iff_of_true (.error ⟨_, rfl⟩) (.inl rfl)
  | true =>
    rw [if_neg (by decide), or_iff_right (by decide)]
    split
    · next s hs =>
      rw [hs]
      cases hparse : Blockhash.parse s with
      | ok hash => exact iff_of_true (.ok _) ⟨s, hash, rfl, hparse⟩
      | error fault =>
        refine iff_of_false (not_caught _) ?_
        rintro ⟨_, hash, ⟨⟩, hok⟩
        rw [hparse] at hok
        cases hok
    · next hnot =>
      refine iff_of_false (not_caught _) ?_
      rintro ⟨s, hash, hs, -⟩
      exact hnot s hs

/-- The first part of a value that is not empty: of a list its first item, of a text a text. -/
theorem firstOf_cases (value : Json) :
    (∃ first rest, value = .list (first :: rest) ∧ firstOf value = .ok first) ∨
      (∃ s c rest, value = .text s ∧ s.toList = c :: rest ∧
        firstOf value = .ok (.text (String.singleton c))) ∨
      ((∀ s, ¬ Begins value s) ∧ (∀ first rest, value ≠ .list (first :: rest)) ∧
        ∃ kind, firstOf value = .error (.of kind)) := by
  cases value with
  | list items =>
    cases items with
    | nil => exact .inr (.inr ⟨nofun, nofun, _, rfl⟩)
    | cons first rest => exact .inl ⟨first, rest, rfl, rfl⟩
  | text s =>
    cases hs : s.toList with
    | nil =>
      refine .inr (.inr ⟨fun _ h => ?_, nofun, .badValue, by simp [firstOf, hs]⟩)
      cases h with
      | text h =>
        rw [hs] at h
        cases h
    | cons c rest => exact .inr (.inl ⟨s, c, rest, rfl, hs, by simp [firstOf, hs]⟩)
  | _ => exact .inr (.inr ⟨nofun, nofun, _, rfl⟩)

theorem status_caught_iff :
    FailsOnly Failure.IsClient (status result) ↔ TellsStatus result := by
  unfold status value TellsStatus
  simp only [bind_assoc, pure_bind]
  rw [opened_caught_iff]
  refine exists_congr fun members => and_congr_right fun _ => ?_
  generalize Json.memberOr members "value" = value
  cases hvalue : value.isTruthy with
  | false => exact iff_of_true (.ok _) (.inl rfl)
  | true =>
    rw [if_pos rfl, or_iff_right (by decide)]
    rcases firstOf_cases value with ⟨first, rest, rfl, hfirst⟩ | ⟨s, c, rest, rfl, -, hfirst⟩ |
      ⟨-, hlist, kind, hfirst⟩
    · rw [hfirst]
      cases first with
      | null => exact iff_of_true (.ok _) ⟨_, _, rfl, .inl rfl⟩
      | object status => exact iff_of_true (.ok _) ⟨_, _, rfl, .inr ⟨status, rfl⟩⟩
      | _ => exact iff_of_false (not_caught _) (by simp)
    · rw [hfirst]
      exact iff_of_false (not_caught _) nofun
    · rw [hfirst]
      refine iff_of_false (not_caught _) ?_
      rintro ⟨first, rest, h, -⟩
      exact hlist first rest h

theorem decoded_caught_iff {s : String} :
    FailsOnly Failure.IsClient (do
        let bytes ← (Base64.decode s).mapError Failure.ofBase64Fault
        return some bytes) ↔ ∃ bytes, Base64.decode s = .ok bytes := by
  cases h : Base64.decode s with
  | ok bytes => exact iff_of_true (.ok _) ⟨bytes, rfl⟩
  | error fault =>
    refine iff_of_false (fun hcaught => ?_) nofun
    cases fault with
    | notAscii => exact Failure.not_isClient_of _ (hcaught rfl)
    | incomplete => exact Failure.not_isClient_of _ (hcaught rfl)

theorem data_caught_iff {data : Json} :
    FailsOnly Failure.IsClient (do
        let first ← if data.isTruthy then firstOf data else .ok (.text "")
        match first with
        | .text s =>
          let bytes ← (Base64.decode s).mapError Failure.ofBase64Fault
          return some bytes
        | _ => throw (Failure.of .wrongKind)) ↔
      (data.isTruthy = false ∨ ∃ s bytes, Begins data s ∧ Base64.decode s = .ok bytes) := by
  cases htruthy : data.isTruthy with
  | false => exact iff_of_true (.ok _) (.inl rfl)
  | true =>
    rw [if_pos rfl, or_iff_right (by decide)]
    rcases firstOf_cases data with ⟨first, rest, rfl, hfirst⟩ | ⟨s, c, rest, rfl, hs, hfirst⟩ |
      ⟨hbegins, -, kind, hfirst⟩
    · rw [hfirst]
      cases first with
      | text s =>
        refine decoded_caught_iff.trans ⟨fun ⟨bytes, h⟩ => ⟨s, bytes, .list s rest, h⟩, ?_⟩
        rintro ⟨_, bytes, ⟨⟩, h⟩
        exact ⟨bytes, h⟩
      | _ =>
        refine iff_of_false (not_caught _) ?_
        rintro ⟨_, _, ⟨⟩, -⟩
    · rw [hfirst]
      refine decoded_caught_iff.trans ⟨fun ⟨bytes, h⟩ => ⟨_, bytes, .text hs, h⟩, ?_⟩
      rintro ⟨_, bytes, hbegins, h⟩
      cases hbegins with
      | text hs' =>
        rw [hs] at hs'
        cases hs'
        exact ⟨bytes, h⟩
    · rw [hfirst]
      refine iff_of_false (not_caught _) ?_
      rintro ⟨s, -, h, -⟩
      exact hbegins s h

theorem account_caught_iff :
    FailsOnly Failure.IsClient (account result) ↔ TellsAccount result := by
  unfold account value TellsAccount
  simp only [bind_assoc, pure_bind]
  rw [opened_caught_iff]
  refine exists_congr fun members => and_congr_right fun _ => ?_
  cases Json.memberOr members "value" with
  | null => exact iff_of_true (.ok _) (.inl rfl)
  | object inner =>
    have hinner : ∀ P : List (String × Json) → Prop, (Json.object inner = .null ∨
        ∃ other, Json.object inner = .object other ∧ P other) ↔ P inner := by
      simp
    rw [hinner]
    exact data_caught_iff
  | _ => exact iff_of_false (not_caught _) (by simp)

theorem height_caught_iff :
    FailsOnly Failure.IsClient (height result) ↔ TellsHeight result := by
  rw [height, TellsHeight]
  cases h : result.toInteger with
  | ok n => simp
  | error fault => cases fault <;> simp

theorem signature_caught (result : Json) : FailsOnly Failure.IsClient (signature result) := by
  rw [signature]
  split
  · exact .ok _
  · exact .error ⟨_, rfl⟩

end Result

/-! ## Questions -/

/-- A question to a ledger. -/
inductive Question where
  | latestBlockhash
  | send (raw : Bytes)
  | status (signature : String)
  | height
  | account (address : Address)

namespace Question

/-- What a question is answered with. -/
def Answer : Question → Type
  | latestBlockhash => Checkpoint
  | send _ => Json
  | status _ => Option SignatureStatus
  | height => Json
  | account _ => Option Bytes

/-- The method that a question calls. -/
def method : Question → String
  | latestBlockhash => "getLatestBlockhash"
  | send _ => "sendTransaction"
  | status _ => "getSignatureStatuses"
  | height => "getBlockHeight"
  | account _ => "getAccountInfo"

/-- What a question sends along. -/
def params {τ : Type} (config : SessionConfig τ) : Question → List Json
  | latestBlockhash => [.object (Session.readOptions config)]
  | send raw =>
    [.text (Base64.encode raw), .object [("encoding", .text "base64"),
      ("skipPreflight", .bool config.skipPreflight),
      ("preflightCommitment", .text config.commitment)]]
  | status signature =>
    [.list [.text signature], .object [("searchTransactionHistory", .bool false)]]
  | height => [.object (Session.readOptions config)]
  | account address =>
    [.text address.text, .object (("encoding", .text "base64") :: Session.readOptions config)]

/-- How the result of a question is read. -/
def read : (q : Question) → Json → Except Failure q.Answer
  | latestBlockhash => Result.checkpoint
  | send _ => Result.signature
  | status _ => Result.status
  | height => Result.height
  | account _ => Result.account

/-- The result is what the method promises. -/
def Fits : Question → Json → Prop
  | latestBlockhash => Result.TellsCheckpoint
  | send _ => fun _ => True
  | status _ => Result.TellsStatus
  | height => Result.TellsHeight
  | account _ => Result.TellsAccount

theorem read_caught_iff (q : Question) (result : Json) :
    FailsOnly Failure.IsClient (q.read result) ↔ q.Fits result := by
  cases q with
  | latestBlockhash => exact Result.checkpoint_caught_iff
  | send raw => exact iff_true_intro (Result.signature_caught result)
  | status signature => exact Result.status_caught_iff
  | height => exact Result.height_caught_iff
  | account address => exact Result.account_caught_iff

theorem legible_iff (q : Question) {τ : Type} {config : SessionConfig τ} {reply : Reply}
    (hgenuine : reply.Genuine) :
    reply.Legible config q.Fits ↔
      FailsOnly Failure.IsClient (reply.taken config q.method >>= q.read) :=
  (taken_caught_iff hgenuine q.read_caught_iff).symm

end Question

/-- Asks a ledger. -/
def Ledger.ask {m : Type → Type} (ledger : Ledger m) : (q : Question) → ExceptT Failure m q.Answer
  | .latestBlockhash => ledger.latestBlockhash
  | .send raw => ledger.send raw
  | .status signature => ledger.status (.text signature)
  | .height => ledger.height
  | .account address => ledger.account address

namespace Session

variable {τ : Type} [Seconds τ] {config : SessionConfig τ} {question : Question} {method : String}
  {params : List Json} {t : List (Wire.Event τ)}

/-- Without attempts, nothing is sent. -/
theorem call_idle {r : Except Failure Json} (hattempts : config.maxAttempts ≤ 0)
    (h : Run (call Wire.host Wire.transport config method params) t r) :
    r = .error (.client (.transport (.noAttempt method))) := by
  have hnone : (backoff config).maxAttempts.toNat = 0 := Int.toNat_of_nonpos hattempts
  rw [call, Backoff.retry, hnone] at h
  exact (run_throw.1 h).2

/-- Without an address, the first attempt is the last. -/
theorem call_invalid {r : Except Failure Json} (hattempts : 0 < config.maxAttempts)
    (hd : config.destination = .invalid)
    (h : Run (call Wire.host Wire.transport config method params) t r) :
    ∃ kind, r = .error (.of kind) := by
  obtain ⟨left, hleft⟩ : ∃ left, (backoff config).maxAttempts.toNat = left + 1 :=
    Nat.exists_eq_succ_of_ne_zero (by simp only [backoff]; omega)
  rw [call, Backoff.retry, hleft, Backoff.attempts, run_mk, bind_iff] at h
  obtain ⟨t₁, r₁, t₂, hexchange, hrest, rfl⟩ := h
  rcases exchange_run hexchange with ⟨-, -, kind, -, rfl⟩ | ⟨_, _, _, -, -, -, hvalid, -⟩
  · obtain ⟨-, rfl⟩ := pure_iff.1 hrest
    exact ⟨kind, rfl⟩
  · exact absurd hd hvalid

/-- A question is a call whose result is read. -/
theorem ask_eq {m : Type → Type} [Monad m] (host : Host m τ) (transport : Transport m) :
    (ledger host transport config).ask question =
      (call host transport config question.method (question.params config) >>= fun result =>
        liftM (question.read result)) := by
  cases question <;> rfl

omit [Seconds τ] in
theorem params_writable : Json.allWritable (question.params config) = true := by
  cases question <;> rfl

omit [Seconds τ] in
/-- Whatever leads to another attempt is legible. -/
theorem legible_of_transient {reply : Reply} (hgenuine : reply.Genuine)
    (ht : ∀ e ∈ t, Transient config question.method e)
    (hreply : reply ∈ Wire.replies t) : reply.Legible config question.Fits := by
  obtain ⟨request, he⟩ := Wire.mem_replies.1 hreply
  obtain ⟨-, fault, hfault⟩ := ht _ he _ _ rfl
  rw [question.legible_iff hgenuine, hfault]
  exact .error ⟨_, rfl⟩

/-- A question ends in a value or in an error of the client exactly if the last reply is legible,
every delay can be computed, and there is an address to send to, or no attempt to be made. -/
theorem asked_caught_iff {r : Except Failure question.Answer}
    (h : Run ((ledger Wire.host Wire.transport config).ask question) t r) :
    ((∃ a, r = .ok a) ∨ ∃ error, r = .error (.client error)) ↔
      (∀ reply, (Wire.replies t).getLast? = some reply →
        reply.Legible config question.Fits) ∧
      (¬ ∃ f, r = .error f ∧ Undelayed config f) ∧
      (config.destination ≠ .invalid ∨ config.maxAttempts ≤ 0) := by
  rw [← caught_cases]
  rw [ask_eq] at h
  obtain ⟨answer, hcall, rfl⟩ := run_read.1 h
  cases call_run hcall with
  | exhausted ht =>
    refine iff_of_true (.error ⟨_, rfl⟩) ⟨?_, ?_, ?_⟩
    · intro reply hlast
      have hreply := List.mem_of_getLast? hlast
      exact legible_of_transient (call_genuine hcall reply hreply) ht hreply
    · rintro ⟨f, hf, n, kind, -, -, rfl⟩
      cases hf
    · by_contra hnot
      obtain ⟨hd, hattempts⟩ := not_or.1 hnot
      obtain ⟨kind, hkind⟩ := call_invalid (by omega) (not_not.1 hd) hcall
      cases hkind
  | undelayed ht hf =>
    refine iff_of_false ?_ fun hr => hr.2.1 ⟨_, rfl, hf⟩
    obtain ⟨n, kind, -, -, rfl⟩ := hf
    exact not_caught kind
  | @unsent _ kind ht hp =>
    refine iff_of_false (not_caught kind) ?_
    rintro ⟨-, -, hd⟩
    rw [params_writable] at hp
    rcases hd with hd | hattempts
    · exact hd (hp.resolve_right (by decide))
    · cases call_idle hattempts hcall
  | @answered _ request reply ht hm hd hgenuine hn =>
    rw [← question.legible_iff hgenuine]
    constructor
    · intro hlegible
      refine ⟨?_, ?_, .inl hd⟩
      · intro last hlast
        rw [Wire.replies_concat, List.getLast?_concat, Option.some.injEq] at hlast
        rwa [← hlast]
      · rintro ⟨f, hf, n, kind, -, -, rfl⟩
        exact Failure.not_isClient_of kind ((question.legible_iff hgenuine).1 hlegible hf)
    · intro hr
      exact hr.1 reply (by rw [Wire.replies_concat, List.getLast?_concat])

/-! ## One reply -/

/-- The reply of a node whose chain has five blocks. -/
def heightReply : Reply := .response 200 (Text.Utf8.encode "\x7b\"result\":5\x7d")

/-- The same, with a member for an error that did not occur. -/
def nullErrorReply : Reply := .response 200 (Text.Utf8.encode
  "\x7b\"jsonrpc\":\"2.0\",\"id\":1,\"error\":null,\"result\":5\x7d")

/-- The integer that a reading brings, or the kind of its fault. -/
def heightOrFault : Except Failure Json → Option (Int ⊕ FaultKind)
  | .ok (.int n) => some (.inl n)
  | .error (.fault kind _) => some (.inr kind)
  | _ => none

theorem heightReply_read : heightReply.taken (.standard (τ := ℚ)) Question.height.method >>=
    Question.height.read = .ok (.int 5 : Json) := by
  rw [Reply.taken_of_named SessionConfig.standard_named]
  have h : heightOrFault (heightReply.result Capacity.standard.nesting "getBlockHeight" >>=
      Result.height) = some (.inl 5) := by decide +kernel
  unfold heightOrFault at h
  split at h
  · next hn =>
    cases h
    exact hn
  · cases h
  · cases h

theorem nullErrorReply_taken :
    ∃ message, nullErrorReply.taken (.standard (τ := ℚ)) Question.height.method =
      .error (.fault .noMember message) := by
  rw [Reply.taken_of_named SessionConfig.standard_named]
  have h : heightOrFault (nullErrorReply.result Capacity.standard.nesting "getBlockHeight") =
      some (.inr .noMember) := by decide +kernel
  unfold heightOrFault at h
  split at h
  · cases h
  · next message hf =>
    cases h
    exact ⟨message, hf⟩
  · cases h

theorem ask_of_reply (question : Question) (reply : Reply) (hgenuine : reply.Genuine)
    (hn : ∀ f, reply.taken (.standard (τ := ℚ)) question.method = .error f →
      f.isTransport = false) :
    ∃ t, Run ((ledger Wire.host Wire.transport (.standard (τ := ℚ))).ask question) t
        (reply.taken (.standard (τ := ℚ)) question.method >>= question.read) ∧
      Wire.replies t = [reply] := by
  rw [ask_eq]
  exact ⟨_, run_read.2 ⟨_, call_of_reply reply 1 (by decide) (by decide) params_writable hgenuine hn,
    rfl⟩, rfl⟩

/-- A height that is told is legible. -/
theorem legible_height :
    ∃ t, Run ((ledger Wire.host Wire.transport (.standard (τ := ℚ))).ask .height) t
        (.ok (.int 5 : Json)) ∧ Wire.replies t = [heightReply] ∧
      heightReply.Legible (.standard (τ := ℚ)) Question.height.Fits := by
  obtain ⟨t, hrun, ht⟩ := ask_of_reply .height heightReply trivial (by
    intro f hf
    have hread := heightReply_read
    rw [hf] at hread
    cases hread)
  rw [heightReply_read] at hrun
  refine ⟨t, hrun, ht, ((asked_caught_iff hrun).1 (.inl ⟨_, rfl⟩)).1 heightReply ?_⟩
  rw [ht]
  rfl

/-- An error that is null is no object, and the question about the height ends in a fault. -/
theorem escaped_null_error :
    ∃ t message, Run ((ledger Wire.host Wire.transport (.standard (τ := ℚ))).ask .height) t
        (.error (.fault .noMember message)) ∧ Wire.replies t = [nullErrorReply] ∧
      ¬ ((∃ a : Json, Except.error (Failure.fault .noMember message) = .ok a) ∨
        ∃ error, (Except.error (Failure.fault .noMember message) : Except Failure Json) =
          .error (.client error)) := by
  obtain ⟨message, hf⟩ := nullErrorReply_taken
  obtain ⟨t, hrun, ht⟩ := ask_of_reply .height nullErrorReply trivial (by
    rw [hf]
    rintro _ ⟨⟩
    rfl)
  rw [hf] at hrun
  exact ⟨t, message, hrun, ht, by simp⟩

end Session

end StorageAgent
