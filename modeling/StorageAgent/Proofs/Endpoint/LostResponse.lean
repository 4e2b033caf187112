import StorageAgent.Proofs.Endpoint.Reading
import StorageAgent.Proofs.Seconds

/-!
# What becomes of a lost response

If no response comes to a request that was delivered, the node may have accepted
the transaction in it all the same. The session sends the same transaction again,
and only the reply to the last request counts: whatever was lost before is
forgotten.

* `send_stale_iff`: a call ends in a stale checkpoint exactly if its last reply
  tells of an unusable block hash.
* `lost_response_kept_iff`: when a lost response does not end in a stale checkpoint.
* `stale_after_lost`: a response is lost, and the answer to the resend is that the
  block hash is unusable.
-/
namespace StorageAgent

open Behaviour

/-- The failures of a connection that was never made, so that nothing was delivered over it. -/
def undelivered : List String :=
  ["ConnectError", "ConnectTimeout", "PoolTimeout", "ProxyError", "UnsupportedProtocol"]

/-- Whether a reply leaves open that the node accepted what it was sent: the connection failed after
it was made, the server failed, or the body cannot be read. -/
def Reply.leavesOpen (nesting : Nat) : Reply → Bool
  | unreachable kind _ => !undelivered.contains kind
  | response status body =>
    decide (500 ≤ status) ||
      decide (status < 400) &&
        match Json.parseBody nesting body with
        | .ok _ => false
        | .error _ => true
  | broken (.fault .undecodableReply _) => true
  | broken _ => false

namespace Wire

variable {τ : Type}

/-- A reply before the last one leaves open whether the transaction was accepted. -/
def Lost (nesting : Nat) (t : List (Event τ)) : Prop :=
  ∃ reply ∈ (replies t).dropLast, reply.leavesOpen nesting = true

/-- The last reply tells of an unusable block hash. -/
def Denied (nesting : Nat) (t : List (Event τ)) : Prop :=
  ∃ reply, (replies t).getLast? = some reply ∧ reply.deniesBlockhash nesting = true

end Wire

namespace Session

variable {τ : Type} {config : SessionConfig τ} {method : String}
  {params : List Json} {raw : Bytes} {t : List (Wire.Event τ)} {r : Except Failure Json}

theorem not_denied_of_transient (hd : config.destination ≠ .relative)
    (ht : ∀ e ∈ t, Transient config method e) : ¬ Wire.Denied config.nesting t := by
  rintro ⟨reply, hlast, hdenied⟩
  obtain ⟨request, he⟩ := Wire.mem_replies.1 (List.mem_of_getLast? hlast)
  obtain ⟨-, fault, hf⟩ := ht _ he _ _ rfl
  have hgenuine : reply.Genuine := by
    cases reply with
    | broken f => cases hdenied
    | _ => trivial
  rcases taken_cases config method hgenuine with ⟨-, message, hs⟩ | ⟨hn, -⟩
  · rw [hs] at hf
    cases hf
  · exact hn ⟨hd, hdenied⟩

/-- Only the last reply counts. -/
theorem send_stale_iff [Seconds τ]
    (hrun : Run ((ledger Wire.host Wire.transport config).send raw) t r) :
    (∃ f, r = .error f ∧ f.isStale = true) ↔
      config.destination ≠ .relative ∧ Wire.Denied config.nesting t := by
  obtain ⟨params, answer, hc, rfl⟩ := send_run hrun
  have hsilent : ∀ {f : Failure} {t : List (Wire.Event τ)}, f.isStale = false →
      (∀ e ∈ t, Transient config "sendTransaction" e) →
      ((∃ g, (Except.error f >>= Result.signature) = .error g ∧ g.isStale = true) ↔
        config.destination ≠ .relative ∧ Wire.Denied config.nesting t) := by
    intro f t hf ht
    refine iff_of_false ?_ fun h => not_denied_of_transient h.1 ht h.2
    rintro ⟨g, hg, hs⟩
    cases hg
    rw [hf] at hs
    cases hs
  cases hc with
  | exhausted ht => exact hsilent rfl ht
  | undelayed ht hf =>
    obtain ⟨n, kind, -, -, rfl⟩ := hf
    exact hsilent rfl ht
  | unsent ht => exact hsilent rfl ht
  | @answered _ request reply ht _ _ hgenuine _ =>
    rcases taken_cases config "sendTransaction" hgenuine with
      ⟨⟨hr, hb⟩, message, hs⟩ | ⟨hn, hf⟩
    · rw [hs]
      refine iff_of_true ⟨_, rfl, rfl⟩ ⟨hr, reply, ?_, hb⟩
      rw [Wire.replies_concat, List.getLast?_concat]
    · refine iff_of_false ?_ ?_
      · rintro ⟨f, hr, hs⟩
        rw [hf.bind Result.signature_failsOnly hr] at hs
        cases hs
      · rintro ⟨hr, last, hl, hb⟩
        rw [Wire.replies_concat, List.getLast?_concat, Option.some.injEq] at hl
        exact hn ⟨hr, hl ▸ hb⟩

/-- A call after a lost response keeps from a stale checkpoint exactly if its last reply does not
tell of an unusable block hash. -/
theorem lost_response_kept_iff [Seconds τ]
    (hrun : Run ((ledger Wire.host Wire.transport config).send raw) t r) :
    (Wire.Lost config.nesting t → ¬ ∃ f, r = .error f ∧ f.isStale = true) ↔
      ¬ (Wire.Lost config.nesting t ∧ config.destination ≠ .relative ∧
        Wire.Denied config.nesting t) := by
  rw [send_stale_iff hrun]
  exact not_and.symm

/-! ## A response is lost -/

/-- A connection that timed out after the request was delivered. -/
def lost : Reply := .unreachable "ReadTimeout" "timed out"

/-- The node does not know the block hash any more. -/
def denied : Reply := .response 200 (Text.Utf8.encode
  "\x7b\"error\":\x7b\"code\":-32002,\"message\":\"Blockhash not found\"\x7d\x7d")

/-- The response to the first request is lost, and the second is answered. -/
theorem call_after_lost (reply : Reply) (hp : Json.allWritable params = true)
    (hgenuine : reply.Genuine)
    (hn : ∀ f, reply.taken (.standard (τ := ℚ)) method = .error f → f.isTransport = false) :
    ∃ t, Run (call Wire.host Wire.transport (.standard (τ := ℚ)) method params) t
        (reply.taken (.standard (τ := ℚ)) method) ∧ Wire.replies t = [lost, reply] := by
  obtain ⟨d, hd⟩ := Backoff.plainDelay_ok (b := backoff (.standard (τ := ℚ))) (by decide +kernel) 0
  obtain ⟨s, hs, hrun⟩ := Backoff.attempts_again 1 0
    (exchange_of_reply lost 1 (by decide) hp trivial) hd rfl
    (Backoff.attempts_done (exchange_of_reply reply 2 (by decide) hp hgenuine) hn)
  refine ⟨_, hrun, ?_⟩
  rw [Wire.replies_append, Wire.replies_append, Wire.replies_of_host hs]
  rfl

theorem send_after_lost (reply : Reply) (hgenuine : reply.Genuine)
    (hn : ∀ f, reply.taken (.standard (τ := ℚ)) "sendTransaction" = .error f →
      f.isTransport = false) :
    ∃ t, Run ((ledger Wire.host Wire.transport (.standard (τ := ℚ))).send [1, 2]) t
        (reply.taken (.standard (τ := ℚ)) "sendTransaction" >>= Result.signature) ∧
      Wire.replies t = [lost, reply] := by
  have hcall := fun params (hp : Json.allWritable params = true) =>
    call_after_lost reply hp hgenuine hn
  exact (hcall _ rfl).imp fun t h => ⟨run_read.2 ⟨_, h.1, rfl⟩, h.2⟩

/-- If the node answers the resend with the signature, the call returns it. -/
theorem kept_after_lost :
    ∃ t, Run ((ledger Wire.host Wire.transport (.standard (τ := ℚ))).send [1, 2]) t
        (.ok (.text "signature")) ∧ Wire.replies t = [lost, .signed] ∧
      ¬ (Wire.Lost Capacity.standard.nesting t ∧ Destination.absolute ≠ .relative ∧
        Wire.Denied Capacity.standard.nesting t) := by
  obtain ⟨t, hrun, ht⟩ := send_after_lost .signed trivial (by rw [Reply.signed_taken]; rintro _ ⟨⟩)
  rw [Reply.signed_taken] at hrun
  refine ⟨t, hrun, ht, (lost_response_kept_iff hrun).1 ?_⟩
  rintro - ⟨f, hf, -⟩
  cases hf

/-- If the block hash became unusable in between, the call ends in a stale checkpoint, although the
node may have accepted the first request. -/
theorem stale_after_lost :
    ∃ t message, Run ((ledger Wire.host Wire.transport (.standard (τ := ℚ))).send [1, 2]) t
        (.error (.client (.stale (.refused "sendTransaction" message)))) ∧
      Wire.replies t = [lost, denied] ∧ lost.leavesOpen Capacity.standard.nesting = true := by
  have hb : denied.deniesBlockhash Capacity.standard.nesting = true := by decide +kernel
  rcases taken_cases (.standard (τ := ℚ)) "sendTransaction" (show denied.Genuine from trivial) with
    ⟨-, message, hs⟩ | ⟨hn, -⟩
  · obtain ⟨t, hrun, ht⟩ := send_after_lost denied trivial (by rw [hs]; rintro _ ⟨⟩; rfl)
    rw [hs] at hrun
    exact ⟨t, message, hrun, ht, rfl⟩
  · exact absurd ⟨by decide, hb⟩ hn

end Session
end StorageAgent
