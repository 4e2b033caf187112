import StorageAgent.Client
import StorageAgent.Proofs.Confirmation.Dialogue
import StorageAgent.Proofs.Envelope.Assembled
import StorageAgent.Proofs.Seconds

/-!
# Attempts of an operation

An operation is a sequence of attempts. Each asks for a block hash of its own, and what it sends is
stamped with that one. A stale attempt is followed by another as long as there are retries left, and
what ends the sequence is the result of the operation.

* `Attempted`, `attempt_run`: what an attempt asks the ledger.
* `execute_tries`: how the attempts of an operation follow each other.
-/
namespace StorageAgent

open Behaviour

/-! ## Calls to the ledger -/

namespace Dialogue

/-- A call that asks what became of a transaction. -/
def IsPoll : Ledger.Event → Prop
  | .status _ _ => True
  | .height _ => True
  | _ => False

end Dialogue

namespace Confirmation

variable {τ : Type} [Seconds τ] {commitment : Commitment} {polling : Polling τ}
  {signature limit : Json} {envelope : Envelope} {t : List (Dialogue.Event τ)}

omit [Seconds τ] in
theorem Sent.calls_of_error {f : Failure} (h : Sent .host Dialogue.ledger envelope t (.error f)) :
    Dialogue.calls t = [.sent envelope.raw (.error f)] := by
  cases h with
  | refused h =>
    rw [Dialogue.send_run.1 h]
    rfl

omit [Seconds τ] in
theorem Sent.calls_of_ok (h : Sent .host Dialogue.ledger envelope t (.ok signature)) :
    ∃ answer, Dialogue.calls t = [.sent envelope.raw answer] := by
  cases h with
  | accepted h =>
    rw [Dialogue.send_run.1 h]
    exact ⟨_, rfl⟩
  | processed h =>
    rw [Dialogue.send_run.1 h]
    exact ⟨_, rfl⟩

/-- Waiting for a transaction is nothing but polls. -/
theorem await_polls {r : Except Failure Outcome}
    (h : Run (await Dialogue.host Dialogue.ledger commitment polling signature limit) t r) :
    ∀ e ∈ Dialogue.calls t, Dialogue.IsPoll e := by
  have hleaves : Leaves (fun e : Dialogue.Event τ => ∀ e', e = .ledger e' → Dialogue.IsPoll e')
      (await Dialogue.host Dialogue.ledger commitment polling signature limit) := by
    refine await_leaves (by rintro _ _ ⟨⟩) (poll_leaves (by rintro _ _ ⟨⟩) ?_ ?_)
    · intro t answer hs
      rw [Dialogue.status_run.1 hs]
      rintro _ he _ rfl
      cases List.mem_singleton.1 he
      trivial
    · intro t answer hh
      rw [Dialogue.height_run.1 hh]
      rintro _ he _ rfl
      cases List.mem_singleton.1 he
      trivial
  intro e he
  obtain ⟨e', he', hcall⟩ := List.mem_filterMap.1 he
  cases e' with
  | ledger e' =>
    cases hcall
    exact hleaves h _ he' _ rfl
  | host _ => cases hcall

/-- Submitting sends once. It ends with a refusal, or polls. -/
theorem submit_calls {r : Except Failure Outcome}
    (h : Run (submit Dialogue.host Dialogue.ledger commitment polling envelope) t r) :
    (∃ f, Dialogue.calls t = [.sent envelope.raw (.error f)] ∧ r = .error f) ∨
      ∃ answer polls, Dialogue.calls t = .sent envelope.raw answer :: polls ∧
        ∀ e ∈ polls, Dialogue.IsPoll e := by
  rcases submit_run h with ⟨f, hsent, rfl⟩ | ⟨t₁, signature, t₂, t₃, hsent, honly, rfl, hawait⟩
  · exact .inl ⟨f, hsent.calls_of_error, rfl⟩
  · obtain ⟨answer, hcalls⟩ := hsent.calls_of_ok
    refine .inr ⟨answer, Dialogue.calls t₃, ?_, await_polls hawait⟩
    rw [Dialogue.calls_append, Dialogue.calls_append, hcalls, Dialogue.calls_of_only honly]
    rfl

end Confirmation

namespace Client

variable {τ : Type} [Seconds τ] {c : Client τ} {instruction : Instruction}
  {t : List (Dialogue.Event τ)} {r : Except Failure Outcome}

/-! ## One attempt -/

/-- The bytes of a transaction of the client: it is stamped with the block hash and holds the
instruction behind the limit of compute units. Unless the instruction is too long, the wire format
reads the transaction back. -/
def Carries (c : Client τ) (instruction : Instruction) (blockhash : Blockhash) (raw : Bytes) :
    Prop :=
  ∃ tx : Transaction, raw = tx.bytes ∧
    tx.message.Says c.caller blockhash
      [⟨Address.computeBudgetProgram, [], 2 :: Bytes.ofNatLE 4 c.unitLimit.toNat⟩,
        ⟨instruction.program, instruction.accounts, instruction.payload⟩] ∧
    (instruction.accounts.length < 250 → instruction.payload.length < 0x10000 →
      Transaction.parse? raw = some tx)

/-- What an attempt calls the ledger for, and how it ends. The block hash is asked for first and
once. At most one transaction is sent, stamped with this block hash, and what follows are polls. -/
inductive Attempted (c : Client τ) (instruction : Instruction) :
    List Ledger.Event → Except Failure Outcome → Prop where
  | unanswered {failure : Failure} :
      Attempted c instruction [.checkpoint (.error failure)] (.error failure)
  | unsigned {checkpoint : Checkpoint} {failure : Failure} :
      Attempted c instruction [.checkpoint (.ok checkpoint)] (.error failure)
  | refused {checkpoint : Checkpoint} {blockhash : Blockhash} {raw : Bytes} {failure : Failure}
      (hhash : checkpoint.blockhash = some blockhash)
      (hraw : Carries c instruction blockhash raw) :
      Attempted c instruction [.checkpoint (.ok checkpoint), .sent raw (.error failure)]
        (.error failure)
  | polled {checkpoint : Checkpoint} {blockhash : Blockhash} {raw : Bytes}
      {answer : Except Failure Json} {polls : List Ledger.Event} {r : Except Failure Outcome}
      (hhash : checkpoint.blockhash = some blockhash)
      (hraw : Carries c instruction blockhash raw) (hpolls : ∀ e ∈ polls, Dialogue.IsPoll e) :
      Attempted c instruction (.checkpoint (.ok checkpoint) :: .sent raw answer :: polls) r

omit [Seconds τ] in
theorem carries_of_assembled {checkpoint : Checkpoint} {envelope : Envelope}
    (h : Run (Envelope.assemble c.key.signer c.unitLimit instruction (some checkpoint)) t
      (.ok envelope)) :
    ∃ blockhash, checkpoint.blockhash = some blockhash ∧
      Carries c instruction blockhash envelope.raw := by
  obtain ⟨units, hlimit, -, hassembled⟩ := Envelope.assemble_ok_iff.1 h
  have hunits : c.unitLimit.toNat = units := by omega
  cases hassembled with
  | @mk payer blockhash signature _ _ _ hhash hfirst _ _ hsize _ =>
    obtain rfl : payer = c.caller := hfirst.2
    refine ⟨blockhash, hhash, ⟨[signature], Envelope.message c.caller blockhash units instruction⟩,
      rfl, ?_, fun haccounts hpayload => ?_⟩
    · rw [hunits]
      exact Message.compile_says
    · exact Transaction.parse?_bytes (Envelope.signed_encodable hsize haccounts hpayload)

theorem attempt_run (h : Run (attempt Dialogue.host Dialogue.ledger c instruction) t r) :
    Attempted c instruction (Dialogue.calls t) r := by
  rcases run_bind.1 h with ⟨_, checkpoint, _, hcheckpoint, h₁, rfl⟩ | ⟨f, hcheckpoint, rfl⟩
  · obtain rfl : _ = [Dialogue.Event.ledger (.checkpoint (.ok checkpoint))] := hcheckpoint
    rcases run_bind.1 h₁ with ⟨_, envelope, _, henvelope, h₂, rfl⟩ | ⟨f, hfailed, rfl⟩
    · obtain ⟨blockhash, hhash, hraw⟩ := carries_of_assembled henvelope
      obtain rfl := Key.assemble_nil henvelope
      obtain ⟨_, -, t₃, rfl, hsubmit, rfl⟩ := run_lift_bind.1 h₂
      rw [Dialogue.calls_append, List.nil_append, Dialogue.calls_append]
      rcases Confirmation.submit_calls hsubmit with
        ⟨f, hcalls, rfl⟩ | ⟨answer, polls, hcalls, hpolls⟩
      · rw [hcalls]
        exact .refused hhash hraw
      · rw [hcalls]
        exact .polled hhash hraw hpolls
    · obtain rfl := Key.assemble_nil hfailed
      exact .unsigned
  · obtain rfl : t = [Dialogue.Event.ledger (.checkpoint (.error f))] := hcheckpoint
    exact .unanswered

/-! ## Attempts in a row -/

/-- One attempt: what happened, and how it ended. -/
structure Try (τ : Type) where
  trace : List (Dialogue.Event τ)
  result : Except Failure Outcome

/-- The block hash of an attempt went stale, or there was none. -/
def Try.Stale (a : Try τ) : Prop := ∃ fault, a.result = .error (.client (.stale fault))

/-- Attempts follow each other: after a stale one comes another while any of the `left` further ones
is left, and after anything else none does. -/
inductive Follow : Nat → List (Try τ) → Prop where
  | ended {left : Nat} {a : Try τ} (h : ¬ a.Stale) : Follow left [a]
  | exhausted {a : Try τ} (h : a.Stale) : Follow 0 [a]
  | again {left : Nat} {a : Try τ} {later : List (Try τ)} (h : a.Stale)
      (hlater : Follow left later) : Follow (left + 1) (a :: later)

omit [Seconds τ] in
theorem Follow.ne_nil {left : Nat} {tries : List (Try τ)} (h : Follow left tries) : tries ≠ [] := by
  cases h <;> simp

omit [Seconds τ] in
/-- An attempt is followed by another exactly if it is stale and not the last one allowed. -/
theorem Follow.followed_iff {left : Nat} {tries : List (Try τ)} (h : Follow left tries) {n : Nat}
    {a : Try τ} (ha : tries[n]? = some a) : n + 1 < tries.length ↔ a.Stale ∧ n < left := by
  induction h generalizing n with
  | ended hstale =>
    cases n with
    | zero => cases ha; simp [hstale]
    | succ n => cases ha
  | exhausted hstale =>
    cases n with
    | zero => cases ha; simp
    | succ n => cases ha
  | @again left a later hstale hlater ih =>
    have hpos := List.length_pos_iff.2 hlater.ne_nil
    cases n with
    | zero =>
      cases ha
      simp only [List.length_cons, hstale, true_and]
      omega
    | succ n =>
      rw [List.getElem?_cons_succ] at ha
      rw [List.length_cons, Nat.add_lt_add_iff_right, ih ha, Nat.add_lt_add_iff_right]

/-- One attempt ends the operation, or it is stale and the attempts that are left follow. -/
theorem attempts_step {left n : Nat} {last : StaleFault}
    (h : Run (attempts Dialogue.host Dialogue.ledger c instruction (left + 1) n last) t r) :
    ∃ a : Try τ, Run (attempt Dialogue.host Dialogue.ledger c instruction) a.trace a.result ∧
      ((¬ a.Stale ∧ t = a.trace ∧ r = a.result.map fun o => { o with attempts := n }) ∨
        ∃ fault t', a.result = .error (.client (.stale fault)) ∧
          Dialogue.calls t = Dialogue.calls a.trace ++ Dialogue.calls t' ∧
          Run (attempts Dialogue.host Dialogue.ledger c instruction left (n + 1) fault) t' r) := by
  rw [attempts, run_mk, bind_iff] at h
  obtain ⟨t₁, answer, t₂, hattempt, hr, rfl⟩ := h
  refine ⟨⟨t₁, answer⟩, hattempt, ?_⟩
  split at hr
  · next outcome =>
    obtain ⟨rfl, rfl⟩ := pure_iff.1 hr
    exact .inl ⟨by rintro ⟨_, ⟨⟩⟩, by rw [List.append_nil], rfl⟩
  · next fault =>
    obtain ⟨_, -, t₃, rfl, hlater, rfl⟩ := bind_iff.1 hr
    refine .inr ⟨fault, t₃, rfl, ?_, hlater⟩
    rw [Dialogue.calls_append, Dialogue.calls_append]
    rfl
  · next failure hstale =>
    obtain ⟨rfl, rfl⟩ := pure_iff.1 hr
    refine .inl ⟨?_, by rw [List.append_nil], rfl⟩
    rintro ⟨fault, hf⟩
    cases hf
    exact hstale fault rfl

/-- The attempts that are left are made in a row, and the last one tells the result. -/
theorem attempts_tries {left : Nat} : ∀ {n : Nat} {last : StaleFault} {t : List (Dialogue.Event τ)}
    {r : Except Failure Outcome},
    Run (attempts Dialogue.host Dialogue.ledger c instruction (left + 1) n last) t r →
      ∃ tries : List (Try τ), Follow left tries ∧
        (∀ a ∈ tries, Run (attempt Dialogue.host Dialogue.ledger c instruction) a.trace a.result) ∧
        Dialogue.calls t = tries.flatMap (fun a => Dialogue.calls a.trace) ∧
        ∃ a, tries.getLast? = some a ∧
          r = a.result.map fun o => { o with attempts := n + tries.length - 1 } := by
  induction left with
  | zero =>
    intro n last t r h
    obtain ⟨a, hattempt, hends⟩ := attempts_step h
    rcases hends with ⟨hstale, rfl, rfl⟩ | ⟨fault, t', hfault, hcalls, hlater⟩
    · exact ⟨[a], .ended hstale, by simpa using hattempt, by simp, a, rfl, by simp⟩
    · -- no attempt is left, and the fault of this one is the result
      obtain ⟨rfl, rfl⟩ := run_throw.1 hlater
      refine ⟨[a], .exhausted ⟨fault, hfault⟩, by simpa using hattempt, ?_, a, rfl, ?_⟩
      · rw [hcalls]
        simp
      · rw [hfault]
        rfl
  | succ left ih =>
    intro n last t r h
    obtain ⟨a, hattempt, hends⟩ := attempts_step h
    rcases hends with ⟨hstale, rfl, rfl⟩ | ⟨fault, t', hfault, hcalls, hlater⟩
    · exact ⟨[a], .ended hstale, by simpa using hattempt, by simp, a, rfl, by simp⟩
    · obtain ⟨tries, hfollow, hattempts, hcalls', b, hb, rfl⟩ := ih hlater
      refine ⟨a :: tries, .again ⟨fault, hfault⟩ hfollow, ?_, ?_, b, ?_, ?_⟩
      · exact List.forall_mem_cons.2 ⟨hattempt, hattempts⟩
      · rw [hcalls, hcalls', List.flatMap_cons]
      · rw [List.getLast?_cons, hb]
        rfl
      · have hnumber : n + 1 + tries.length - 1 = n + (tries.length + 1) - 1 := by omega
        rw [List.length_cons, hnumber]

/-! ## Building runs -/

theorem attempt_of_submit {checkpoint : Checkpoint} {envelope : Envelope}
    (henvelope : Run (Envelope.assemble c.key.signer c.unitLimit instruction (some checkpoint))
      ([] : List (Dialogue.Event τ)) (.ok envelope))
    (hsubmit : Run (Confirmation.submit Dialogue.host Dialogue.ledger c.commitment c.polling
      envelope) t r) :
    Run (attempt Dialogue.host Dialogue.ledger c instruction)
      (.ledger (.checkpoint (.ok checkpoint)) ::
        .host (.logged ⟨.debug, .envelope, envelope.summary instruction⟩) :: t) r := by
  refine run_bind.2 (.inl ⟨[_], checkpoint, _, rfl, ?_, rfl⟩)
  refine run_bind.2 (.inl ⟨[], envelope, _, henvelope, ?_, rfl⟩)
  exact run_lift_bind.2 ⟨[_], (), t, rfl, hsubmit, rfl⟩

theorem attempts_of_outcome (left n : Nat) (last : StaleFault) {o : Outcome}
    (h : Run (attempt Dialogue.host Dialogue.ledger c instruction) t (.ok o)) :
    Run (attempts Dialogue.host Dialogue.ledger c instruction (left + 1) n last) t
      (.ok { o with attempts := n }) :=
  ⟨t, _, [], h, ⟨rfl, rfl⟩, by simp⟩

theorem attempts_of_stale {left n : Nat} (last : StaleFault) {fault : StaleFault}
    {t' : List (Dialogue.Event τ)}
    (h : Run (attempt Dialogue.host Dialogue.ledger c instruction) t
      (.error (.client (.stale fault))))
    (hlater : Run (attempts Dialogue.host Dialogue.ledger c instruction left (n + 1) fault) t' r) :
    ∃ line, Run (attempts Dialogue.host Dialogue.ledger c instruction (left + 1) n last)
      (t ++ .host (.logged line) :: t') r :=
  ⟨_, t, _, _, h, ⟨[_], (), t', rfl, hlater, rfl⟩, rfl⟩

theorem execute_of_attempts
    (h : Run (attempts Dialogue.host Dialogue.ledger c instruction (c.staleRetries + 1) 1
      .noAttempt) t r) :
    Run (execute Dialogue.host Dialogue.ledger c instruction)
      (.host .acquired :: .host (.told (some ⟨instruction.opcode.name, c.caller.text⟩)) ::
        (t ++ [.host (.told none), .host .released])) r := by
  refine bind_iff.2 ⟨[_], (), _, rfl, ?_, rfl⟩
  refine bind_iff.2 ⟨[_], (), _, rfl, ?_, rfl⟩
  refine bind_iff.2 ⟨t, r, _, h, ?_, rfl⟩
  refine bind_iff.2 ⟨[_], (), _, rfl, ?_, rfl⟩
  exact bind_iff.2 ⟨[_], (), [], rfl, ⟨rfl, rfl⟩, rfl⟩

/-- An operation is nothing but its attempts. -/
theorem attempts_of_execute (h : Run (execute Dialogue.host Dialogue.ledger c instruction) t r) :
    ∃ s, Run (attempts Dialogue.host Dialogue.ledger c instruction (c.staleRetries + 1) 1
      .noAttempt) s r ∧ Dialogue.calls t = Dialogue.calls s := by
  rw [execute, run_mk] at h
  obtain ⟨_, _, _, rfl, h₁, rfl⟩ := bind_iff.1 h
  obtain ⟨_, _, _, rfl, h₂, rfl⟩ := bind_iff.1 h₁
  obtain ⟨s, result, _, hattempts, h₃, rfl⟩ := bind_iff.1 h₂
  obtain ⟨_, _, _, rfl, h₄, rfl⟩ := bind_iff.1 h₃
  obtain ⟨_, _, _, rfl, h₅, rfl⟩ := bind_iff.1 h₄
  obtain ⟨rfl, rfl⟩ := pure_iff.1 h₅
  exact ⟨s, hattempts, by simp⟩

end Client

namespace Sample

/-- A client with the sample's key. -/
def client : Client ℚ where
  key
  program
  unitLimit := Envelope.defaultUnitLimit
  commitment := .confirmed
  polling := .every 60 1 5
  staleRetries := 2
  memory := Capacity.standard.memory

/-- A ledger that has no block hash leaves an attempt stale. -/
theorem unstamped : Run (Client.attempt Dialogue.host Dialogue.ledger client instruction)
    [.ledger (.checkpoint (.ok ⟨none, .null⟩))] (.error (.client (.stale .noCheckpoint))) :=
  run_bind.2 (.inl ⟨[_], ⟨none, .null⟩, [], rfl, run_bind.2 (.inr ⟨_, ⟨rfl, rfl⟩, rfl⟩), rfl⟩)

/-- The envelope is accepted, and its first status is the one that was waited for. -/
theorem submitted : ∃ t o, Run (Confirmation.submit Dialogue.host Dialogue.ledger client.commitment
    client.polling envelope) t (.ok o) := by
  let status : SignatureStatus := ⟨.int 42, .int 3, .text "confirmed", .null⟩
  have htime : Seconds.lt (Seconds.sub (0 : ℚ) 0) client.polling.timeout = true := by
    decide +kernel
  obtain ⟨t, o, hpoll⟩ : ∃ t o, Run (Confirmation.poll Dialogue.host Dialogue.ledger
      client.commitment (.text envelope.signature) envelope.checkpoint.lastValidHeight) t
      (.ok (some o)) :=
    ⟨_, _, Confirmation.poll_of_status status [_] rfl
      (Confirmation.decided_of_reached rfl (by decide))⟩
  exact ⟨_, o, Confirmation.submit_of_signature [_] (Confirmation.send_of_accepted rfl)
    (Confirmation.await_first (r := .ok o) Confirmation.every_rounds_ne_zero htime hpoll)⟩

end Sample

namespace Client

variable {τ : Type} [Seconds τ] {c : Client τ} {instruction : Instruction}
  {t : List (Dialogue.Event τ)} {r : Except Failure Outcome}

/-! ## Operations -/

/-- An operation of the client went through these attempts. -/
structure Made (c : Client τ) (instruction : Instruction) (tries : List (Try τ))
    (t : List (Dialogue.Event τ)) (r : Except Failure Outcome) : Prop where
  /-- The ledger is called in attempts only. -/
  calls : Dialogue.calls t = tries.flatMap fun a => Dialogue.calls a.trace
  run : ∀ a ∈ tries, Run (attempt Dialogue.host Dialogue.ledger c instruction) a.trace a.result
  attempted : ∀ a ∈ tries, Attempted c instruction (Dialogue.calls a.trace) a.result
  /-- Attempts are repeated if they are stale, and as often as is allowed. -/
  followed : ∀ n a, tries[n]? = some a →
    (n + 1 < tries.length ↔ a.Stale ∧ n + 1 < c.staleRetries + 1)
  /-- The last attempt tells the result, and an outcome tells how many there were. -/
  result : ∃ a, tries.getLast? = some a ∧
    r = a.result.map fun o => { o with attempts := tries.length }

theorem execute_tries (h : Run (execute Dialogue.host Dialogue.ledger c instruction) t r) :
    ∃ tries, Made c instruction tries t r := by
  rw [execute, run_mk] at h
  obtain ⟨_, _, _, rfl, h₁, rfl⟩ := bind_iff.1 h
  obtain ⟨_, _, _, rfl, h₂, rfl⟩ := bind_iff.1 h₁
  obtain ⟨s, result, _, hattempts, h₃, rfl⟩ := bind_iff.1 h₂
  obtain ⟨_, _, _, rfl, h₄, rfl⟩ := bind_iff.1 h₃
  obtain ⟨_, _, _, rfl, h₅, rfl⟩ := bind_iff.1 h₄
  obtain ⟨rfl, rfl⟩ := pure_iff.1 h₅
  obtain ⟨tries, hfollow, hruns, hcalls, a, ha, rfl⟩ := attempts_tries hattempts
  exact ⟨tries, {
    calls := by rw [← hcalls]; simp
    run := hruns
    attempted := fun a ha => attempt_run (hruns a ha)
    followed := by
      intro n a ha
      rw [hfollow.followed_iff ha, Nat.add_lt_add_iff_right]
    result := ⟨a, ha, by rw [Nat.add_sub_cancel_left]⟩ }⟩

/-- The first attempt gets no block hash, and the second one signs, sends and confirms. -/
theorem made_in_two : ∃ t o,
    Run (execute Dialogue.host Dialogue.ledger Sample.client Sample.instruction) t (.ok o) ∧
      o.attempts = 2 ∧ ∃ tries, Made Sample.client Sample.instruction tries t (.ok o) := by
  obtain ⟨s, o, hsubmit⟩ := Sample.submitted
  have hsecond := attempt_of_submit (c := Sample.client) Sample.assembled hsubmit
  have hlater := attempts_of_outcome 1 2 .noCheckpoint hsecond
  obtain ⟨line, hall⟩ := attempts_of_stale .noAttempt Sample.unstamped hlater
  have hrun := execute_of_attempts hall
  exact ⟨_, _, hrun, rfl, execute_tries hrun⟩

end Client
end StorageAgent
