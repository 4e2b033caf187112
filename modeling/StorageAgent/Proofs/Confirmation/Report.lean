import StorageAgent.Proofs.Confirmation.Dialogue
import StorageAgent.Proofs.Endpoint.Reading
import StorageAgent.Proofs.Seconds

/-!
# What becomes of an accepted transaction

Once the node has returned a signature, a submission should report: an outcome, or
that the transaction expired. It does so unless polling meets a failure that is no
transport error, and then it ends with that failure while the transaction is on
its way.

* `reports_iff`: a submission that was accepted reports exactly if no later reply
  is fatal and every delay can be computed.
* `refused_after_accepted`: one JSON-RPC error, to a question about the status, and
  the submission ends in a rejection.
-/
namespace StorageAgent.Confirmation

open Behaviour

variable {τ : Type} {commitment : Commitment} {polling : Polling τ} {signature limit : Json}
  {envelope : Envelope} {config : SessionConfig τ} {method : String}
  {t : List (Wire.Event τ)}

/-- A submission ended in an outcome, or because the block height was past the limit. -/
def Reports (limit : Json) (r : Except Failure Outcome) : Prop :=
  (∃ o, r = .ok o) ∨ ∃ signature height,
    r = .error (.client (.stale (.expired signature limit height))) ∧
      height.exceeds? limit = some true

/-- A failure that reports nothing about the transaction. -/
def Unreported (limit : Json) (f : Failure) : Prop :=
  ∀ signature height, f = .client (.stale (.expired signature limit height)) →
    height.exceeds? limit ≠ some true

/-- An answer about the block height that fails, or cannot be compared with the limit. -/
def UselessHeight (limit : Json) : Except Failure Json → Prop
  | .error f => f.isTransport = false
  | .ok height => height.exceeds? limit = none

/-- A reply that ends polling without a report. -/
def Fatal (config : SessionConfig τ) (limit : Json) : Wire.Event τ → Prop
  | .transport (.posted request reply) =>
    (request.method = "getSignatureStatuses" ∧
      statusFault (reply.taken config "getSignatureStatuses" >>= Result.status) ≠ none) ∨
    (request.method = "getBlockHeight" ∧
      UselessHeight limit (reply.taken config "getBlockHeight" >>= Result.height))
  | _ => False

/-- A reply with a signature, which can be asked about. -/
def Accepted (config : SessionConfig τ) : Wire.Event τ → Prop
  | .transport (.posted request reply) =>
    request.method = "sendTransaction" ∧ ∃ signature,
      reply.taken config "sendTransaction" >>= Result.signature = .ok signature ∧
        signature.isWritable = true
  | _ => False

/-! ## Events that do not matter -/

theorem Fatal.posted {e : Wire.Event τ} (h : Fatal config limit e) :
    ∃ request reply, e = .transport (.posted request reply) := by
  cases e with
  | host h' => exact h.elim
  | transport e =>
    cases e with
    | numbered id => exact h.elim
    | posted request reply => exact ⟨request, reply, rfl⟩

theorem Accepted.posted {e : Wire.Event τ} (h : Accepted config e) :
    ∃ request reply, e = .transport (.posted request reply) := by
  cases e with
  | host h' => exact h.elim
  | transport e =>
    cases e with
    | numbered id => exact h.elim
    | posted request reply => exact ⟨request, reply, rfl⟩

theorem not_fatal_of_transient {e : Wire.Event τ} (he : Session.Transient config method e) :
    ¬ Fatal config limit e := by
  intro h
  obtain ⟨request, reply, rfl⟩ := h.posted
  obtain ⟨rfl, fault, hf⟩ := he request reply rfl
  obtain ⟨hm, hfatal⟩ | ⟨hm, hfatal⟩ := h
  · rw [hm] at hf
    rw [hf] at hfatal
    exact hfatal rfl
  · rw [hm] at hf
    rw [hf] at hfatal
    cases hfatal

theorem not_accepted_of_transient {e : Wire.Event τ} (he : Session.Transient config method e) :
    ¬ Accepted config e := by
  intro h
  obtain ⟨request, reply, rfl⟩ := h.posted
  obtain ⟨rfl, fault, hf⟩ := he request reply rfl
  obtain ⟨hm, signature, hs, -⟩ := h
  rw [hm] at hf
  rw [hf] at hs
  cases hs

/-! ## The send -/

/-- If a reply to a send was accepted, its signature is the answer. -/
theorem accepted_send [Seconds τ] {raw : Bytes} {answer : Except Failure Json}
    (h : Run ((Session.ledger Wire.host Wire.transport config).send raw) t answer)
    (ha : ∃ e ∈ t, Accepted config e) :
    config.destination ≠ .invalid ∧
      ∃ signature, answer = .ok signature ∧ signature.isWritable = true := by
  obtain ⟨params, a, hc, rfl⟩ := Session.send_run h
  obtain ⟨e, he, hacc⟩ := ha
  cases hc with
  | exhausted ht => exact absurd hacc (not_accepted_of_transient (ht e he))
  | undelayed ht => exact absurd hacc (not_accepted_of_transient (ht e he))
  | unsent ht => exact absurd hacc (not_accepted_of_transient (ht e he))
  | answered ht hm hd =>
    rcases List.mem_append.1 he with he | he
    · exact absurd hacc (not_accepted_of_transient (ht e he))
    · rw [List.mem_singleton.1 he] at hacc
      exact ⟨hd, hacc.2⟩

theorem accepted_sent [Seconds τ] {answer : Except Failure Json}
    (h : Sent .host (Session.ledger Wire.host Wire.transport config) envelope t answer)
    (ha : ∃ e ∈ t, Accepted config e) :
    config.destination ≠ .invalid ∧
      ∃ signature, answer = .ok signature ∧ signature.isWritable = true := by
  cases h with
  | accepted h => exact accepted_send h ha
  | refused h => exact accepted_send h ha
  | processed h =>
    obtain ⟨e, he, hacc⟩ := ha
    rcases List.mem_append.1 he with he | he
    · obtain ⟨-, _, hs, -⟩ := accepted_send h ⟨e, he, hacc⟩
      cases hs
    · rw [List.mem_singleton.1 he] at hacc
      exact hacc.elim

theorem not_fatal_of_send [Seconds τ] {raw : Bytes} {answer : Except Failure Json}
    (h : Run ((Session.ledger Wire.host Wire.transport config).send raw) t answer) :
    ∀ e ∈ t, ¬ Fatal config limit e := by
  obtain ⟨params, a, hc, -⟩ := Session.send_run h
  intro e he hfatal
  obtain ⟨request, reply, rfl⟩ := hfatal.posted
  have hm := hc.method_eq _ he request reply rfl
  obtain ⟨hq, -⟩ | ⟨hq, -⟩ := hfatal
  · exact absurd (hm.symm.trans hq) (by decide)
  · exact absurd (hm.symm.trans hq) (by decide)

theorem not_fatal_of_sent [Seconds τ] {answer : Except Failure Json}
    (h : Sent .host (Session.ledger Wire.host Wire.transport config) envelope t answer) :
    ∀ e ∈ t, ¬ Fatal config limit e := by
  cases h with
  | accepted h => exact not_fatal_of_send h
  | refused h => exact not_fatal_of_send h
  | processed h => exact List.forall_mem_append.2 ⟨not_fatal_of_send h, by simp [Fatal]⟩

/-! ## Polling -/

theorem unreported_of_fresh {f : Failure} (h : Fresh f) : Unreported limit f := by
  rintro _ _ rfl
  cases h

theorem unreported_of_read {α : Type} {reply : Reply} {read : Json → Except Failure α} {f : Failure}
    (hgenuine : reply.Genuine) (hread : ∀ result, FailsOnly Fresh (read result))
    (h : reply.taken config method >>= read = .error f) : Unreported limit f := by
  rcases (taken_failsOnly hgenuine).bind (fun result f hf => .inl (hread result hf)) h with
    h | ⟨message, rfl⟩
  · exact unreported_of_fresh h
  · rintro _ _ ⟨⟩

/-- A question about a transaction fails by fatal replies only, or because a delay cannot be
computed. -/
theorem called_fatal [Seconds τ] {α : Type} {params : List Json} {answer : Except Failure Json}
    {read : Json → Except Failure α} {fault : Except Failure α → Option Failure}
    (hc : Session.Called config method params t answer) (hd : config.destination ≠ .invalid)
    (hp : Json.allWritable params = true)
    (hfault : ∀ f, fault (.error f) = if f.isTransport then none else some f)
    (hfatal : ∀ request reply, request.method = method → reply.Genuine →
      ((∃ f, fault (reply.taken config method >>= read) = some f ∧ Unreported limit f) ↔
        Fatal config limit (.transport (.posted request reply) : Wire.Event τ))) :
    (∃ f, fault (answer >>= read) = some f ∧ Unreported limit f) ↔
      (∃ e ∈ t, Fatal config limit e) ∨
        ∃ f, fault (answer >>= read) = some f ∧ Unreported limit f ∧ Session.Undelayed config f := by
  have hsilent : ∀ t : List (Wire.Event τ),
      (∀ e ∈ t, Session.Transient config method e) →
        ¬ ∃ e ∈ t, Fatal config limit e := by
    rintro t ht ⟨e, he, hf⟩
    exact not_fatal_of_transient (ht e he) hf
  have herror : ∀ f, fault (.error f >>= read) = if f.isTransport then none else some f := hfault
  cases hc with
  | exhausted ht => simp [hsilent t ht, herror, Failure.isTransport]
  | undelayed ht hu =>
    have hu' := hu
    obtain ⟨n, kind, -, -, rfl⟩ := hu'
    have hk : (Failure.of kind).isTransport = false := rfl
    simp [hsilent t ht, herror, hk, hu]
  | unsent ht hp' =>
    rw [hp] at hp'
    exact absurd hp' (by simpa using hd)
  | @answered t request reply ht hm _ hgenuine =>
    have hlast : (∃ e ∈ t ++ [.transport (.posted request reply)], Fatal config limit e) ↔
        Fatal config limit (.transport (.posted request reply) : Wire.Event τ) := by
      simp only [List.mem_append, or_and_right, exists_or, hsilent t ht, false_or,
        List.mem_singleton, exists_eq_left]
    rw [hlast, ← hfatal request reply hm hgenuine]
    refine (or_iff_left_of_imp ?_).symm
    rintro ⟨f, hf, hu, -⟩
    exact ⟨f, hf, hu⟩

theorem status_unreported {reply : Reply} (hgenuine : reply.Genuine) {f : Failure}
    (h : statusFault (reply.taken config method >>= Result.status) = some f) :
    Unreported limit f := by
  cases ha : reply.taken config method >>= Result.status with
  | error g =>
    rw [ha, statusFault] at h
    split at h
    · cases h
    · cases h
      exact unreported_of_read hgenuine Result.status_failsOnly ha
  | ok status =>
    rw [ha] at h
    cases status with
    | none => cases h
    | some status =>
      rw [statusFault] at h
      split at h
      · cases h
        exact unreported_of_fresh (Failure.fresh_ofPairFault _)
      · cases h

theorem height_unreported {reply : Reply} (hgenuine : reply.Genuine) :
    (∃ f, heightFault signature limit (reply.taken config method >>= Result.height) = some f ∧
      Unreported limit f) ↔
      UselessHeight limit (reply.taken config method >>= Result.height) := by
  cases ha : reply.taken config method >>= Result.height with
  | error f =>
    have hf : Unreported limit f := unreported_of_read hgenuine Result.height_failsOnly ha
    cases ht : f.isTransport <;> simp [heightFault, UselessHeight, ht, hf]
  | ok height =>
    have hkind : Unreported limit (.of .wrongKind) := unreported_of_fresh rfl
    rcases hx : height.exceeds? limit with _ | _ | _
    · simp [heightFault, UselessHeight, hx, hkind]
    · simp [heightFault, UselessHeight, hx]
    · have hn : ¬ Unreported limit (.client (.stale (.expired signature limit height))) :=
        fun h => h _ _ rfl hx
      simp [heightFault, UselessHeight, hx, hn]

section
variable [Seconds τ]

theorem status_fatal (hd : config.destination ≠ .invalid) (hw : signature.isWritable = true) :
    FaultsBy (Unreported limit) (Session.Undelayed config) (Fatal config limit)
      statusFault ((Session.ledger Wire.host Wire.transport config).status signature) := by
  intro t answer h
  obtain ⟨params, a, hc, hp, rfl⟩ := Session.status_run h
  refine called_fatal hc hd (hp.trans hw) (fun f => rfl) fun request reply hm hgenuine => ?_
  constructor
  · rintro ⟨f, hf, -⟩
    exact .inl ⟨hm, by rw [hf]; simp⟩
  · rintro (⟨-, hf⟩ | ⟨hm', -⟩)
    · obtain ⟨f, hf⟩ := Option.ne_none_iff_exists'.1 hf
      exact ⟨f, hf, status_unreported hgenuine hf⟩
    · exact absurd (hm.symm.trans hm') (by decide)

theorem height_fatal (hd : config.destination ≠ .invalid) :
    FaultsBy (Unreported limit) (Session.Undelayed config) (Fatal config limit)
      (heightFault signature limit) (Session.ledger Wire.host Wire.transport config).height := by
  intro t answer h
  obtain ⟨params, a, hc, hp, rfl⟩ := Session.height_run h
  refine called_fatal hc hd hp (fun f => rfl) fun request reply hm hgenuine => ?_
  rw [height_unreported hgenuine]
  constructor
  · exact fun h => .inr ⟨hm, h⟩
  · rintro (⟨hm', -⟩ | ⟨-, h⟩)
    · exact absurd (hm.symm.trans hm') (by decide)
    · exact h

theorem await_fatal (hd : config.destination ≠ .invalid) (hw : signature.isWritable = true) :
    FailsBy (Unreported limit) (Session.Undelayed config) (Fatal config limit)
      (await Wire.host (Session.ledger Wire.host Wire.transport config) commitment polling signature
        limit) :=
  await_failsBy (fun _ h => h)
    (poll_failsBy (fun _ h => h) (status_fatal hd hw) (height_fatal hd))

/-- Polling sends no transaction. -/
theorem await_not_sent : Leaves
    (fun e : Wire.Event τ => ∀ request reply, e = .transport (.posted request reply) →
      request.method ≠ "sendTransaction")
    (await Wire.host (Session.ledger Wire.host Wire.transport config) commitment polling signature
      limit) := by
  refine await_leaves (by rintro _ _ _ ⟨⟩) (poll_leaves (by rintro _ _ _ ⟨⟩) ?_ ?_)
  · intro t r h e he request reply hp
    obtain ⟨params, a, hc, -, -⟩ := Session.status_run h
    rw [hc.method_eq e he request reply hp]
    decide
  · intro t r h e he request reply hp
    obtain ⟨params, a, hc, -, -⟩ := Session.height_run h
    rw [hc.method_eq e he request reply hp]
    decide

end

/-! ## The submission -/

theorem not_reports_iff {r : Except Failure Outcome} :
    ¬ Reports limit r ↔ ∃ f, r = .error f ∧ Unreported limit f := by
  cases r with
  | ok o => simp [Reports]
  | error f => simp [Reports, Unreported]

/-- A submission that was accepted fails to report by a fatal reply, or because a delay cannot be
computed. -/
theorem unreported_iff [Seconds τ] {r : Except Failure Outcome}
    (hrun : Run (submit Wire.host (Session.ledger Wire.host Wire.transport config) commitment
      polling envelope) t r)
    (haccepted : ∃ e ∈ t, Accepted config e) :
    (∃ f, r = .error f ∧ Unreported envelope.checkpoint.lastValidHeight f) ↔
      (∃ e ∈ t, Fatal config envelope.checkpoint.lastValidHeight e) ∨
        ∃ f, r = .error f ∧ Session.Undelayed config f := by
  rcases submit_run hrun with ⟨f, hsent, rfl⟩ | ⟨t₁, signature, t₂, t₃, hsent, ht₂, rfl, hawait⟩
  · obtain ⟨-, _, hs, -⟩ := accepted_sent hsent haccepted
    cases hs
  -- the reply that was accepted is one to the send
  obtain ⟨e, he, hacc⟩ := haccepted
  have he₁ : e ∈ t₁ := by
    rcases List.mem_append.1 he with he | he
    · exact he
    rcases List.mem_append.1 he with he | he
    · obtain ⟨h, rfl⟩ := ht₂ e he
      exact hacc.elim
    · obtain ⟨request, reply, rfl⟩ := hacc.posted
      exact absurd hacc.1 (await_not_sent hawait _ he request reply rfl)
  obtain ⟨hd, _, ⟨⟩, hw⟩ := accepted_sent hsent ⟨e, he₁, hacc⟩
  -- so the rest is polling, and nothing before it is fatal
  have hsilent : ¬ ∃ e ∈ t₁ ++ t₂, Fatal config envelope.checkpoint.lastValidHeight e := by
    rintro ⟨e, he, hf⟩
    rcases List.mem_append.1 he with he | he
    · exact not_fatal_of_sent hsent e he hf
    · obtain ⟨h, rfl⟩ := ht₂ e he
      exact hf
  have hdelay : (∃ f, r = .error f ∧ Unreported envelope.checkpoint.lastValidHeight f ∧
      Session.Undelayed config f) ↔ ∃ f, r = .error f ∧ Session.Undelayed config f := by
    constructor
    · rintro ⟨f, hr, -, hu⟩
      exact ⟨f, hr, hu⟩
    · rintro ⟨f, hr, hu⟩
      refine ⟨f, hr, ?_, hu⟩
      obtain ⟨n, kind, -, -, rfl⟩ := hu
      rintro _ _ ⟨⟩
  rw [await_fatal hd hw hawait, hdelay, ← List.append_assoc, exists_append_iff hsilent]

theorem reports_iff [Seconds τ] {r : Except Failure Outcome}
    (hrun : Run (submit Wire.host (Session.ledger Wire.host Wire.transport config) commitment
      polling envelope) t r)
    (haccepted : ∃ e ∈ t, Accepted config e) :
    Reports envelope.checkpoint.lastValidHeight r ↔
      (¬ ∃ e ∈ t, Fatal config envelope.checkpoint.lastValidHeight e) ∧
        ¬ ∃ f, r = .error f ∧ Session.Undelayed config f := by
  rw [← not_iff_not, not_reports_iff, unreported_iff hrun haccepted, ← not_or, not_not]

/-! ## One question after the send -/

/-- The status of a transaction that was confirmed in slot 42. -/
def confirmedReply : Reply := .response 200 (Text.Utf8.encode
  "\x7b\"result\":\x7b\"value\":[\x7b\"slot\":42,\"confirmationStatus\":\"confirmed\"\x7d]\x7d\x7d")

/-- Whether an answer about the status decides for the transaction. -/
def confirms : Except Failure (Option SignatureStatus) → Bool
  | .ok (some status) => !status.failed && status.reaches .confirmed
  | _ => false

theorem confirmedReply_status : ∃ status,
    confirmedReply.taken (.standard (τ := ℚ)) "getSignatureStatuses" >>= Result.status =
        .ok (some status) ∧
      status.failed = false ∧ status.reaches .confirmed = true := by
  rw [Reply.taken_of_named SessionConfig.standard_named]
  have h : confirms (confirmedReply.result Capacity.standard.nesting "getSignatureStatuses" >>=
      Result.status) = true := by decide +kernel
  unfold confirms at h
  split at h
  · rename_i status hs
    exact ⟨status, hs, by simpa using h⟩
  · cases h

/-- A node that does not take the question. -/
def refusedReply : Reply := .response 200 (Text.Utf8.encode
  "\x7b\"error\":\x7b\"code\":-32602,\"message\":\"Invalid param\"\x7d\x7d")

/-- Whether a reading is a rejection. -/
def rejects : Except Failure Json → Bool
  | .error (.client (.rejected _)) => true
  | _ => false

theorem refusedReply_taken : ∃ rejection,
    refusedReply.taken (.standard (τ := ℚ)) "getSignatureStatuses" =
      .error (.client (.rejected rejection)) := by
  rw [Reply.taken_of_named SessionConfig.standard_named]
  have h : rejects (refusedReply.result Capacity.standard.nesting "getSignatureStatuses") = true := by
    decide +kernel
  unfold rejects at h
  split at h
  · rename_i rejection hr
    exact ⟨rejection, hr⟩
  · cases h

theorem status_of_reply (reply : Reply) (hgenuine : reply.Genuine)
    (hn : ∀ f, reply.taken (.standard (τ := ℚ)) "getSignatureStatuses" = .error f →
      f.isTransport = false) :
    ∃ t, Run ((Session.ledger Wire.host Wire.transport (.standard (τ := ℚ))).status
        (.text "signature")) t
        (reply.taken (.standard (τ := ℚ)) "getSignatureStatuses" >>= Result.status) ∧
      Wire.replies t = [reply] :=
  ⟨_, run_read.2 ⟨_, Session.call_of_reply reply 2 (by decide) (by decide) rfl hgenuine hn, rfl⟩, rfl⟩

theorem send_of_signed :
    ∃ t, Run ((Session.ledger Wire.host Wire.transport (.standard (τ := ℚ))).send shortLived.raw) t
        (.ok (.text "signature")) ∧
      (∃ e ∈ t, Accepted (.standard (τ := ℚ)) e) ∧ Wire.replies t = [.signed] := by
  have hs : Reply.signed.taken (.standard (τ := ℚ)) "sendTransaction" = .ok (.text "signature") :=
    Reply.signed_taken
  refine ⟨_, run_read.2 ⟨_, Session.call_of_reply .signed 1 (by decide) (by decide) rfl trivial
    (by rw [hs]; rintro _ ⟨⟩), by rw [hs]; rfl⟩, ?_, rfl⟩
  refine ⟨_, List.mem_cons_of_mem _ (List.mem_cons_of_mem _ List.mem_cons_self), rfl, ?_⟩
  exact ⟨.text "signature", by rw [Reply.signed_taken]; rfl, rfl⟩

/-- The node accepts the envelope, and polling ends with the first poll. -/
theorem submit_after_signed {t : List (Wire.Event ℚ)} {r : Except Failure Outcome}
    (h : Run (poll Wire.host (Session.ledger Wire.host Wire.transport .standard) .confirmed
      (.text "signature") (.int 100)) t (r.map some)) :
    ∃ s, Run (submit Wire.host (Session.ledger Wire.host Wire.transport .standard) .confirmed
        (.every 60 1 5) shortLived) (s ++ t) r ∧
      (∃ e ∈ s, Accepted (.standard (τ := ℚ)) e) ∧ Wire.replies s = [.signed] := by
  obtain ⟨t₁, hsend, ⟨e, he, hacc⟩, hreplies⟩ := send_of_signed
  have htime : Seconds.lt (Seconds.sub (0 : ℚ) 0) (Polling.every (60 : ℚ) 1 5).timeout = true := by
    decide +kernel
  have hsubmit := submit_of_signature t₁ (send_of_accepted hsend)
    (await_first every_rounds_ne_zero htime h)
  refine ⟨t₁ ++ [.host (.logged (line .info
    s!"Sent transaction {(Json.text shortLived.signature).display}")), .host (.read 0),
    .host (.read 0)], ?_, ⟨e, List.mem_append_left _ he, hacc⟩, ?_⟩
  · rw [List.append_assoc]
    exact hsubmit
  · rw [Wire.replies_append, hreplies]
    rfl

/-- A submission that is accepted and confirmed meets no fatal reply. -/
theorem confirmed_after_accepted :
    ∃ t o, Run (submit Wire.host (Session.ledger Wire.host Wire.transport (.standard (τ := ℚ)))
        .confirmed (.every 60 1 5) shortLived) t (.ok o) ∧
      Wire.replies t = [.signed, confirmedReply] ∧
      ¬ ∃ e ∈ t, Fatal (.standard (τ := ℚ)) shortLived.checkpoint.lastValidHeight e := by
  obtain ⟨status, hs, hf, hr⟩ := confirmedReply_status
  obtain ⟨t₂, hstatus, ht₂⟩ := status_of_reply confirmedReply trivial (by
    intro f hf
    rw [hf] at hs
    cases hs)
  rw [hs] at hstatus
  obtain ⟨t₁, hrun, ⟨e, he, hacc⟩, ht₁⟩ := submit_after_signed (r := .ok _)
    (poll_of_status status t₂ hstatus (decided_of_reached hf hr))
  refine ⟨_, _, hrun, ?_, ?_⟩
  · rw [Wire.replies_append, ht₁, Wire.replies_append, ht₂, Wire.replies_of_host Host.Only.nil.cons]
    rfl
  · exact ((reports_iff hrun ⟨e, List.mem_append_left _ he, hacc⟩).1 (.inl ⟨_, rfl⟩)).1

/-- A submission that is accepted ends in a rejection. -/
theorem refused_after_accepted :
    ∃ t rejection, Run (submit Wire.host
        (Session.ledger Wire.host Wire.transport (.standard (τ := ℚ))) .confirmed (.every 60 1 5)
        shortLived) t (.error (.client (.rejected rejection))) ∧
      Wire.replies t = [.signed, refusedReply] ∧ (∃ e ∈ t, Accepted (.standard (τ := ℚ)) e) ∧
      ¬ Reports shortLived.checkpoint.lastValidHeight (.error (.client (.rejected rejection))) := by
  obtain ⟨rejection, hr⟩ := refusedReply_taken
  obtain ⟨t₂, hstatus, ht₂⟩ := status_of_reply refusedReply trivial (by
    rw [hr]
    rintro _ ⟨⟩
    rfl)
  rw [hr] at hstatus
  obtain ⟨t₁, hrun, ⟨e, he, hacc⟩, ht₁⟩ := submit_after_signed (r := .error _)
    (poll_of_failure hstatus rfl)
  refine ⟨_, rejection, hrun, ?_, ⟨e, List.mem_append_left _ he, hacc⟩, ?_⟩
  · rw [Wire.replies_append, ht₁, ht₂]
    rfl
  · rintro (⟨_, ⟨⟩⟩ | ⟨_, _, ⟨⟩, -⟩)

end StorageAgent.Confirmation
