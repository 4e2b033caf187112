import StorageAgent.Proofs.Client.Attempts
import StorageAgent.Proofs.Confirmation.Report
import StorageAgent.Proofs.Encoding.Base64
import StorageAgent.Proofs.Endpoint.Legible

/-!
# Accounts and transactions in base64

What a node keeps in an account reaches the client as a text, and so does a transaction the node.
Neither loses a byte. An account without bytes is not a missing account, but a result that is empty
in any way is.

* `Result.account_of_holds`, `Result.account_eq_none_iff`: what a result says about an account.
* `Session.Called.shown_iff`: a call ends with the one result that a reply brings.
* `Session.account_faithful`, `Client.fetch_faithful`: readings give what was shown.
* `Client.base64_faithful`: the same for all readings, and what is sent.
-/
namespace StorageAgent

open Behaviour

/-! ## Results -/

namespace Result

variable {result : Json} {bytes : Bytes}

/-- A result holds the data of an account: the value is an object, its data are the standard base64
text of the bytes and the name of the encoding. -/
def Holds (result : Json) (bytes : Bytes) : Prop :=
  ∃ members value text, result = .object members ∧
    Json.member? members "value" = some (.object value) ∧
    Json.member? value "data" = some (.list [.text text, .text "base64"]) ∧
    Base64.Standard bytes text.toList

/-- A result without an account: null or otherwise empty, or an object whose value is null or
missing. -/
def NoAccount (result : Json) : Prop :=
  result.isTruthy = false ∨
    ∃ members, result = .object members ∧ Json.memberOr members "value" = .null

theorem value_eq_null_iff : value result = .ok .null ↔ NoAccount result := by
  have hmembers : value result = .ok .null ↔
      ∃ members, result.Opens members ∧ Json.memberOr members "value" = .null := by
    rw [value, bind_eq_ok_iff]
    refine exists_congr fun members => and_congr membersOf_eq_ok_iff ?_
    constructor
    · intro h
      exact Except.ok.inj h
    · intro h
      rw [h]
      rfl
  rw [hmembers]
  constructor
  · rintro ⟨members, hopens, hvalue⟩
    cases hopens with
    | nothing hempty => exact .inl hempty
    | object => exact .inr ⟨members, rfl, hvalue⟩
  · rintro (hempty | ⟨members, rfl, hvalue⟩)
    · exact ⟨[], .nothing hempty, rfl⟩
    · exact ⟨members, .object members, hvalue⟩

/-- Whatever is wrong with an account that there is, it is not taken for a missing one. -/
theorem account_eq_none_iff : account result = .ok none ↔ NoAccount result := by
  rw [← value_eq_null_iff]
  constructor
  · intro h
    obtain ⟨v, hvalue, h⟩ := bind_eq_ok_iff.1 h
    cases hnull : v.isNull with
    | true => rw [hvalue, Json.isNull_iff.1 hnull]
    | false =>
      dsimp only at h
      rw [if_neg (by rw [hnull]; decide)] at h
      obtain ⟨members, -, h⟩ := bind_eq_ok_iff.1 h
      split at h
      all_goals
        obtain ⟨first, -, h⟩ := bind_eq_ok_iff.1 h
        cases first with
        | text s =>
          obtain ⟨bytes, -, h⟩ := bind_eq_ok_iff.1 h
          cases h
        | _ => cases h
  · intro h
    rw [account, h]
    rfl

theorem account_of_holds (h : Holds result bytes) : account result = .ok (some bytes) := by
  obtain ⟨members, inner, text, rfl, hvalue, hdata, htext⟩ := h
  have hinner : Json.memberOr members "value" = .object inner := by
    rw [Json.memberOr, hvalue]
    rfl
  have hlist : Json.memberOr inner "data" = .list [.text text, .text "base64"] := by
    rw [Json.memberOr, hdata]
    rfl
  have hopens : value (.object members) = .ok (.object inner) := by
    rw [value, membersOf_eq_ok_iff.2 (.object members), ← hinner]
    rfl
  have hread : account (.object members) = (do
      let bytes ← (Base64.decode text).mapError Failure.ofBase64Fault
      return some bytes) := by
    rw [account, hopens]
    simp only [bind, Except.bind, Json.isNull, Json.membersOf, hlist]
    rfl
  rw [hread, Base64.decode_of_standard htext]
  rfl

end Result

/-! ## Replies -/

/-- A reply brings a result: its status does not say that it failed, and its body is read as an
object without an error. -/
inductive Reply.Brings (nesting : Nat) : Reply → Json → Prop where
  | result {status : Int} {body : Bytes} {members : List (String × Json)} (hstatus : status < 400)
      (hbody : Json.parseBody nesting body = .ok (.object members))
      (herror : Json.member? members "error" = none) :
      Brings nesting (.response status body) (Json.memberOr members "result")

namespace Reply

variable {reply : Reply} {nesting : Nat} {method : String} {result : Json}

theorem Brings.result_eq (h : reply.Brings nesting result) :
    reply.result nesting method = .ok result := by
  cases h with
  | @result status body members hstatus hbody herror =>
    rw [Reply.result, if_neg (by omega), if_neg (by omega), hbody]
    obtain ⟨_, hsome, -⟩ | ⟨-, hresult⟩ := answerResult_cases method members
    · rw [herror] at hsome
      cases hsome
    · exact hresult

/-- Only an object has a result. -/
theorem object_of_answerResult {answer : Json} (h : answerResult method answer = .ok result) :
    ∃ members, answer = .object members := by
  obtain ⟨error?, -, h⟩ := bind_eq_ok_iff.1 h
  cases error? with
  | some error => cases h
  | none =>
    obtain ⟨members, hmembers, -⟩ := bind_eq_ok_iff.1 h
    cases answer with
    | object members => exact ⟨members, rfl⟩
    | _ => cases hmembers

theorem brings_of_result (h : reply.result nesting method = .ok result) :
    reply.Brings nesting result := by
  cases reply with
  | unreachable kind message => cases h
  | broken failure => cases h
  | response status body =>
    rw [Reply.result] at h
    split at h
    · cases h
    split at h
    · cases h
    have hstatus : status < 400 := by omega
    split at h
    · cases h
    · cases h
    · next answer hbody =>
      obtain ⟨members, rfl⟩ := object_of_answerResult h
      rcases answerResult_cases method members with ⟨error, -, herror⟩ | ⟨hnone, hresult⟩
      · rw [herror] at h
        cases h
      · rw [hresult] at h
        cases h
        exact .result hstatus hbody hnone

theorem brings_iff_taken {τ : Type} {config : SessionConfig τ} (hd : config.destination = .absolute) :
    reply.Brings config.nesting result ↔ reply.taken config method = .ok result := by
  rw [taken_of_named (by rw [hd]; decide)]
  exact ⟨Brings.result_eq, brings_of_result⟩

end Reply

/-! ## Calls -/

/-- A reply in a trace brings a result with a property. -/
def Wire.Shown {τ : Type} (nesting : Nat) (t : List (Wire.Event τ)) (P : Json → Prop) : Prop :=
  ∃ reply ∈ Wire.replies t, ∃ result, reply.Brings nesting result ∧ P result

namespace Session

variable {τ α : Type} [Seconds τ] {config : SessionConfig τ} {method : String} {params : List Json}
  {t : List (Wire.Event τ)} {P : Json → Prop}

omit [Seconds τ] in
theorem not_shown_of_transient (hd : config.destination = .absolute)
    (ht : ∀ e ∈ t, Transient config method e) : ¬ Wire.Shown config.nesting t P := by
  rintro ⟨reply, hreply, result, hbrings, -⟩
  obtain ⟨request, he⟩ := Wire.mem_replies.1 hreply
  obtain ⟨-, fault, hfault⟩ := ht _ he request reply rfl
  rw [(Reply.brings_iff_taken hd).1 hbrings] at hfault
  cases hfault

/-- A call ends with a result exactly if a reply brings it. -/
theorem Called.shown_iff {answer : Except Failure Json} (hd : config.destination = .absolute)
    (h : Called config method params t answer) :
    Wire.Shown config.nesting t P ↔ ∃ result, answer = .ok result ∧ P result := by
  cases h with
  | exhausted ht => exact iff_of_false (not_shown_of_transient hd ht) nofun
  | undelayed ht => exact iff_of_false (not_shown_of_transient hd ht) nofun
  | unsent ht => exact iff_of_false (not_shown_of_transient hd ht) nofun
  | @answered t request reply ht =>
    constructor
    · rintro ⟨last, hlast, result, hbrings, hP⟩
      rw [Wire.replies_concat, List.mem_append, List.mem_singleton] at hlast
      rcases hlast with hearlier | rfl
      · exact absurd ⟨last, hearlier, result, hbrings, hP⟩ (not_shown_of_transient hd ht)
      · exact ⟨result, (Reply.brings_iff_taken hd).1 hbrings, hP⟩
    · rintro ⟨result, htaken, hP⟩
      refine ⟨reply, ?_, result, (Reply.brings_iff_taken hd).2 htaken, hP⟩
      rw [Wire.replies_concat]
      exact List.mem_append_right _ (List.mem_singleton_self _)

/-! ## Readings -/

/-- Whatever the node replies, a reading of an account gives what is read of the bytes that a reply
brought, and nothing exactly if a reply brought that there is no account. -/
structure Faithful (nesting : Nat) (reading : ExceptT Failure (Behaviour (Wire.Event τ)) (Option α))
    (read : Bytes → Except Failure α) : Prop where
  data : ∀ t r bytes, Run reading t r → Wire.Shown nesting t (Result.Holds · bytes) →
    r = (read bytes).map some
  none : ∀ t r, Run reading t r → (r = .ok none ↔ Wire.Shown nesting t Result.NoAccount)

/-- A reading takes in a reply. -/
def TakesIn (reading : ExceptT Failure (Behaviour (Wire.Event τ)) (Option α)) (reply : Reply) :
    Prop :=
  ∃ t r, Run reading t r ∧ Wire.replies t = [reply]

variable {address : Address} {reply : Reply} {result : Json}

theorem account_faithful (hd : config.destination = .absolute) (address : Address) :
    Faithful config.nesting ((ledger Wire.host Wire.transport config).account address) .ok where
  data t r bytes h hshown := by
    obtain ⟨answer, hcall, rfl⟩ := run_read.1 h
    obtain ⟨result, rfl, hholds⟩ := ((call_run hcall).shown_iff hd).1 hshown
    exact Result.account_of_holds hholds
  none t r h := by
    obtain ⟨answer, hcall, rfl⟩ := run_read.1 h
    rw [(call_run hcall).shown_iff hd]
    cases answer with
    | ok result =>
      constructor
      · intro hnone
        exact ⟨result, rfl, Result.account_eq_none_iff.1 hnone⟩
      · rintro ⟨_, ⟨⟩, hnone⟩
        exact Result.account_eq_none_iff.2 hnone
    | error f => exact iff_of_false nofun nofun

theorem account_takesIn (hd : config.destination = .absolute) (hattempts : 0 < config.maxAttempts)
    (hbrings : reply.Brings config.nesting result) (address : Address) :
    TakesIn ((ledger Wire.host Wire.transport config).account address) reply := by
  have hgenuine : reply.Genuine := by
    cases hbrings
    trivial
  have hvalid : config.destination ≠ .invalid := by
    rw [hd]
    decide
  have hanswered : ∀ f, reply.taken config "getAccountInfo" = .error f →
      f.isTransport = false := by
    rw [(Reply.brings_iff_taken hd).1 hbrings]
    nofun
  have hwritable : Json.allWritable ((Question.account address).params config) = true :=
    params_writable
  exact ⟨_, _, run_read.2 ⟨_, call_of_reply reply 1 hattempts hvalid hwritable hgenuine hanswered,
    rfl⟩, rfl⟩

end Session

/-! ## Fetching -/

namespace Client

/-- What is read at a derived address, if there is an account. -/
def fetch {m : Type → Type} [Monad m] {α : Type} (ledger : Ledger m)
    (derived : Except Failure Address.Derived) (read : Bytes → Except Failure α) :
    ExceptT Failure m (Option α) := do
  let derived ← derived
  match ← ledger.account derived.address with
  | none => return none
  | some raw =>
    let a ← read raw
    return some a

/-- What becomes of the bytes of an account, if there are any. -/
def found {α : Type} (read : Bytes → Except Failure α) : Option Bytes → Except Failure (Option α)
  | none => .ok none
  | some raw => (read raw).map some

section
variable {m : Type → Type} [Monad m] {τ : Type} (ledger : Ledger m) (c : Client τ)

theorem fetchBookkeeper_eq : fetchBookkeeper ledger c =
    fetch ledger c.bookkeeperAddress fun raw => (Bookkeeper.parse raw).mapError .input := rfl

theorem fetchRequest_eq : fetchRequest ledger c =
    fetch ledger c.requestAddress fun raw => (RequestRecord.parse raw).mapError .input := rfl

end

section
variable {ε τ α : Type} [Seconds τ] {read : Bytes → Except Failure α} {d : Address.Derived}
  {derived : Except Failure Address.Derived}

theorem fetch_derived {ledger : Ledger (Behaviour ε)} {t : List ε} {r : Except Failure (Option α)} :
    Run (fetch ledger (.ok d) read) t r ↔
      ∃ a, Run (ledger.account d.address) t a ∧ r = a >>= found read := by
  have hfound : ∀ raw t r, Run (liftM (read raw) >>= fun a => pure (some a)) t r ↔
      Run (liftM (found read (some raw)) : ExceptT Failure (Behaviour ε) (Option α)) t r := by
    intro raw t r
    rw [run_except, found]
    cases read raw with
    | ok a => exact run_ok_bind.trans run_pure
    | error f => exact run_error_bind
  rw [← run_read, fetch]
  refine run_ok_bind.trans (run_bind.trans (Iff.trans ?_ run_bind.symm))
  refine or_congr_left (exists_congr fun t₁ => exists_congr fun raw? => exists_congr fun t₂ =>
    and_congr_right fun _ => and_congr_left fun _ => ?_)
  cases raw? with
  | none => exact run_pure.trans run_except.symm
  | some raw => exact hfound raw t₂ r

theorem fetch_faithful {config : SessionConfig τ} (hd : config.destination = .absolute)
    (derived : Except Failure Address.Derived) (read : Bytes → Except Failure α) :
    Session.Faithful config.nesting (fetch (Session.ledger Wire.host Wire.transport config) derived read)
      read where
  data t r bytes h hshown := by
    cases derived with
    | error f =>
      obtain ⟨rfl, -⟩ := run_error_bind.1 h
      obtain ⟨reply, hreply, -⟩ := hshown
      cases hreply
    | ok d =>
      obtain ⟨a, haccount, rfl⟩ := fetch_derived.1 h
      rw [(Session.account_faithful hd d.address).data t a bytes haccount hshown]
      rfl
  none t r h := by
    cases derived with
    | error f =>
      obtain ⟨rfl, rfl⟩ := run_error_bind.1 h
      refine iff_of_false nofun ?_
      rintro ⟨reply, hreply, -⟩
      cases hreply
    | ok d =>
      obtain ⟨a, haccount, rfl⟩ := fetch_derived.1 h
      rw [← (Session.account_faithful hd d.address).none t a haccount]
      cases a with
      | error f => exact iff_of_false nofun nofun
      | ok raw? =>
        cases raw? with
        | none => exact iff_of_true rfl rfl
        | some raw =>
          refine iff_of_false ?_ nofun
          change (read raw).map some ≠ .ok none
          cases read raw with
          | ok a => nofun
          | error f => nofun

theorem fetch_takesIn {config : SessionConfig τ} {reply : Reply} {result : Json}
    (hd : config.destination = .absolute) (hattempts : 0 < config.maxAttempts)
    (hbrings : reply.Brings config.nesting result) (hderived : derived = .ok d) :
    Session.TakesIn (fetch (Session.ledger Wire.host Wire.transport config) derived read)
      reply := by
  obtain ⟨t, a, haccount, ht⟩ := Session.account_takesIn hd hattempts hbrings d.address
  subst hderived
  exact ⟨t, _, fetch_derived.2 ⟨a, haccount, rfl⟩, ht⟩

end

section
variable {τ : Type} [Seconds τ] {config : SessionConfig τ} {reply : Reply} {result : Json}
  {d : Address.Derived} (hd : config.destination = .absolute) (c : Client τ)

include hd

theorem fetchBookkeeper_faithful : Session.Faithful config.nesting
    (fetchBookkeeper (Session.ledger Wire.host Wire.transport config) c)
    (fun raw => (Bookkeeper.parse raw).mapError .input) := by
  rw [fetchBookkeeper_eq]
  exact fetch_faithful hd _ _

theorem fetchRequest_faithful : Session.Faithful config.nesting
    (fetchRequest (Session.ledger Wire.host Wire.transport config) c)
    (fun raw => (RequestRecord.parse raw).mapError .input) := by
  rw [fetchRequest_eq]
  exact fetch_faithful hd _ _

theorem fetchBookkeeper_takesIn (hattempts : 0 < config.maxAttempts)
    (hbrings : reply.Brings config.nesting result) (hderived : c.bookkeeperAddress = .ok d) :
    Session.TakesIn (fetchBookkeeper (Session.ledger Wire.host Wire.transport config) c) reply := by
  rw [fetchBookkeeper_eq]
  exact fetch_takesIn hd hattempts hbrings hderived

theorem fetchRequest_takesIn (hattempts : 0 < config.maxAttempts)
    (hbrings : reply.Brings config.nesting result) (hderived : c.requestAddress = .ok d) :
    Session.TakesIn (fetchRequest (Session.ledger Wire.host Wire.transport config) c) reply := by
  rw [fetchRequest_eq]
  exact fetch_takesIn hd hattempts hbrings hderived

end

/-! ## Sending -/

/-- A request to send a transaction sends this text. -/
def Sends {τ : Type} (text : String) (e : Wire.Event τ) : Prop :=
  ∀ request reply, e = .transport (.posted request reply) → request.method = "sendTransaction" →
    request.params.head? = some (.text text)

section
variable {τ : Type} [Seconds τ] {config : SessionConfig τ} {envelope : Envelope}
  {commitment : Commitment} {polling : Polling τ}

theorem send_sends : Leaves (Sends envelope.base64)
    ((Session.ledger (τ := τ) Wire.host Wire.transport config).send envelope.raw) := by
  intro t r h e he request reply hposted _
  obtain ⟨answer, hcall, -⟩ := run_read.1 h
  rw [hposted] at he
  cases Session.call_own hcall _ he with
  | posted => rfl

/-- Submitting an envelope sends its text and no other. -/
theorem submit_sends : Leaves (Sends envelope.base64) (Confirmation.submit (τ := τ) Wire.host
    (Session.ledger Wire.host Wire.transport config) commitment polling envelope) := by
  have hsend : ∀ t r, Confirmation.Sent Wire.Event.host
      (Session.ledger (τ := τ) Wire.host Wire.transport config) envelope t r →
      ∀ e ∈ t, Sends envelope.base64 e := by
    intro t r hsent
    cases hsent with
    | accepted h => exact send_sends h
    | refused h => exact send_sends h
    | processed h =>
      refine List.forall_mem_append.2 ⟨send_sends h, fun e he => ?_⟩
      rw [List.mem_singleton.1 he]
      rintro _ _ ⟨⟩
  intro t r h
  rcases Confirmation.submit_run h with
    ⟨f, hsent, rfl⟩ | ⟨t₁, signature, t₂, t₃, hsent, ht₂, rfl, hawait⟩
  · exact hsend t _ hsent
  · refine List.forall_mem_append.2 ⟨hsend t₁ _ hsent, List.forall_mem_append.2 ⟨?_, ?_⟩⟩
    · intro e he
      obtain ⟨event, rfl⟩ := ht₂ e he
      rintro _ _ ⟨⟩
    · intro e he request reply hposted hmethod
      exact absurd hmethod (Confirmation.await_not_sent hawait e he request reply hposted)

end

/-! ## Both ways -/

/-- What a node keeps is read byte by byte, by every reading and in every run, and nothing is read
exactly if the node shows that nothing is there. What is sent is the standard text of an envelope,
which stands for the envelope's bytes. -/
theorem base64_faithful {τ : Type} [Seconds τ] (config : SessionConfig τ) (c : Client τ)
    (hd : config.destination = .absolute) :
    let ledger := Session.ledger Wire.host Wire.transport config
    (∀ address, Session.Faithful config.nesting (ledger.account address) .ok) ∧
    Session.Faithful config.nesting (fetchBookkeeper ledger c)
      (fun raw => (Bookkeeper.parse raw).mapError .input) ∧
    Session.Faithful config.nesting (fetchRequest ledger c)
      (fun raw => (RequestRecord.parse raw).mapError .input) ∧
    -- a result that a node brings is taken in by all of them
    (0 < config.maxAttempts → ∀ reply result, reply.Brings config.nesting result →
      (∀ address, Session.TakesIn (ledger.account address) reply) ∧
      (∀ d, c.bookkeeperAddress = .ok d → Session.TakesIn (fetchBookkeeper ledger c) reply) ∧
      ∀ d, c.requestAddress = .ok d → Session.TakesIn (fetchRequest ledger c) reply) ∧
    ∀ envelope : Envelope, Base64.Standard envelope.raw envelope.base64.toList ∧
      Base64.decode envelope.base64 = .ok envelope.raw ∧
      ∀ commitment polling t r,
        Run (Confirmation.submit Wire.host ledger commitment polling envelope) t r →
          ∀ e ∈ t, Sends envelope.base64 e := by
  refine ⟨Session.account_faithful hd, fetchBookkeeper_faithful hd c, fetchRequest_faithful hd c,
    ?_, ?_⟩
  · intro hattempts reply result hbrings
    exact ⟨Session.account_takesIn hd hattempts hbrings,
      fun _ => fetchBookkeeper_takesIn hd c hattempts hbrings,
      fun _ => fetchRequest_takesIn hd c hattempts hbrings⟩
  · intro envelope
    exact ⟨Base64.standard_iff.2 rfl, Base64.decode_encode envelope.raw,
      fun _ _ _ _ h => submit_sends h⟩

/-- The reply of a node that has two bytes in the account. -/
def dataReply : Reply := .response 200 (Text.Utf8.encode
  "\x7b\"result\":\x7b\"value\":\x7b\"data\":[\"AP8=\",\"base64\"]\x7d\x7d\x7d")

/-- The result that holds this text, and nothing else. -/
def dataResult (text : String) : Json :=
  .object [("value", .object [("data", .list [.text text, .text "base64"])])]

/-- The text that a result holds, if it holds nothing else. -/
def onlyText? : Except Failure Json → Option String
  | .ok (.object [("value", .object [("data", .list [.text text, .text "base64"])])]) => some text
  | _ => none

theorem dataReply_brings : dataReply.Brings Capacity.standard.nesting (dataResult "AP8=") := by
  have h : onlyText? (dataReply.result Capacity.standard.nesting "getAccountInfo") = some "AP8=" := by
    decide +kernel
  unfold onlyText? at h
  split at h
  · next text hread =>
    cases h
    exact Reply.brings_of_result hread
  · cases h

/-- Two bytes that the node has in the bookkeeper's account are read there. -/
theorem base64_faithful_account : ∃ t,
    Run ((Session.ledger Wire.host Wire.transport (.standard (τ := ℚ))).account Sample.bookkeeper) t
        (.ok (some [0, 255])) ∧ Wire.replies t = [dataReply] := by
  have hholds : Result.Holds (dataResult "AP8=") [0, 255] :=
    ⟨_, _, "AP8=", rfl, rfl, rfl, Base64.standard_iff.2 (by decide)⟩
  obtain ⟨hread, -, -, htaken, -⟩ := base64_faithful .standard Sample.client rfl
  obtain ⟨t, r, hrun, ht⟩ := (htaken (by decide) _ _ dataReply_brings).1 Sample.bookkeeper
  have hshown : Wire.Shown Capacity.standard.nesting t (Result.Holds · [0, 255]) := by
    refine ⟨dataReply, ?_, _, dataReply_brings, hholds⟩
    rw [ht]
    exact List.mem_singleton_self _
  rw [(hread Sample.bookkeeper).data t r _ hrun hshown] at hrun
  exact ⟨t, hrun, ht⟩

/-- The reply of a node whose result is an empty list. -/
def emptyReply : Reply := .response 200 (Text.Utf8.encode "\x7b\"result\":[]\x7d")

/-- Whether a result is an empty list. -/
def isEmptyList : Except Failure Json → Bool
  | .ok (.list []) => true
  | _ => false

theorem emptyReply_brings : emptyReply.Brings Capacity.standard.nesting (.list []) := by
  have h : isEmptyList (emptyReply.result Capacity.standard.nesting "getAccountInfo") = true := by
    decide +kernel
  unfold isEmptyList at h
  split at h
  · next hread => exact Reply.brings_of_result hread
  · cases h

/-- An empty list is no account, although neither it nor a value in it is null. -/
theorem nothing_in_empty_list : ∃ t,
    Run (fetchBookkeeper (Session.ledger Wire.host Wire.transport (.standard (τ := ℚ))) Sample.client)
        t (.ok none) ∧
      Wire.replies t = [emptyReply] ∧ emptyReply.Brings Capacity.standard.nesting (.list []) ∧
      ¬ (Json.list [] = .null ∨ ∃ members, Json.list [] = .object members ∧
        Json.memberOr members "value" = .null) := by
  have hseeds : Address.checkSeeds (Address.seedCount - 1) [Address.bookkeeperSeed] = .ok () := rfl
  have hbookkeeper : Address.bookkeeper Sample.program = .ok ⟨Sample.bookkeeper, 254⟩ :=
    Address.find_of_search hseeds Sample.search_eq
  have hderived : Sample.client.bookkeeperAddress = .ok ⟨Sample.bookkeeper, 254⟩ :=
    congrArg (Except.mapError Failure.derivation) hbookkeeper
  let config : SessionConfig ℚ := .standard
  have hd : config.destination = .absolute := rfl
  obtain ⟨t, r, hrun, ht⟩ :=
    fetchBookkeeper_takesIn hd Sample.client (by decide) emptyReply_brings hderived
  have hshown : Wire.Shown Capacity.standard.nesting t Result.NoAccount := by
    refine ⟨emptyReply, ?_, _, emptyReply_brings, .inl rfl⟩
    rw [ht]
    exact List.mem_singleton_self _
  have hnone : r = .ok none := ((fetchBookkeeper_faithful hd Sample.client).none t r hrun).2 hshown
  rw [hnone] at hrun
  exact ⟨t, hrun, ht, emptyReply_brings, by simp⟩

end Client

end StorageAgent
