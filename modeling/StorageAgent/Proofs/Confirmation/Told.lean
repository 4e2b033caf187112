import StorageAgent.Proofs.Confirmation.Verdict

/-!
# What the result of a submission tells

A submission hears what the node makes of the transaction, and then answers about its status and
about the block height. An answer settles what became of the transaction, or leaves it open
(`Settles`, `Passes`). The result says the same as the answers: it is confirmed exactly if an answer
confirms, which is then the last one, and unknown exactly if the node accepted the transaction and
no answer settled anything.
-/
namespace StorageAgent.Confirmation

open Behaviour

/-! ## Answers that settle something -/

/-- The node takes a transaction, or has processed it before. -/
def Accepts : Except Failure Json → Prop
  | .ok _ => True
  | .error (.client (.rejected rejection)) => rejection.alreadyProcessed = true
  | .error _ => False

/-- The transaction landed well and has reached the level. -/
def Confirms (commitment : Commitment) (answer : Except Failure (Option SignatureStatus)) : Prop :=
  ∃ status, answer = .ok (some status) ∧ status.failed = false ∧ status.reaches commitment = true

/-- An answer about the status that is decisive: the transaction failed or has reached the level, or
the question fails for good. -/
def Settles (commitment : Commitment) : Except Failure (Option SignatureStatus) → Prop
  | .ok (some status) => status.failed = true ∨ status.reaches commitment = true
  | .ok none => False
  | .error f => f.isTransport = false

/-- An answer about the block height that is decisive: the limit is passed, or the question fails
for good. -/
def Passes (limit : Json) : Except Failure Json → Prop
  | .ok height => height.exceeds? limit ≠ some false
  | .error f => f.isTransport = false

theorem Confirms.settles {commitment : Commitment}
    {answer : Except Failure (Option SignatureStatus)} (h : Confirms commitment answer) :
    Settles commitment answer := by
  obtain ⟨status, rfl, -, hr⟩ := h
  exact .inr hr

variable {τ : Type} {config : SessionConfig τ} {commitment : Commitment}
  {polling : Polling τ} {signature limit : Json} {envelope : Envelope}
  {t t₁ t₂ : List (Wire.Event τ)}

/-- Something was answered that is decisive for a transaction with this limit. -/
def Settled (config : SessionConfig τ) (commitment : Commitment) (limit : Json)
    (t : List (Wire.Event τ)) : Prop :=
  (∃ b ∈ Wire.statuses config t, Settles commitment b.2) ∨
    ∃ b ∈ Wire.heights config t, Passes limit b.2

/-- An answer about a status confirms. -/
def Confirmed (config : SessionConfig τ) (commitment : Commitment) (t : List (Wire.Event τ)) :
    Prop :=
  ∃ b ∈ Wire.statuses config t, Confirms commitment b.2

theorem settled_append : Settled config commitment limit (t₁ ++ t₂) ↔
    Settled config commitment limit t₁ ∨ Settled config commitment limit t₂ := by
  simp only [Settled, Wire.answers_append, List.mem_append, or_and_right, exists_or]
  exact or_or_or_comm

theorem confirmed_append : Confirmed config commitment (t₁ ++ t₂) ↔
    Confirmed config commitment t₁ ∨ Confirmed config commitment t₂ := by
  simp only [Confirmed, Wire.answers_append, List.mem_append, or_and_right, exists_or]

theorem not_settled_of_host (ht : Host.Only .host t) :
    ¬ Settled config commitment limit t := by
  simp [Settled, Wire.answers_of_host ht]

theorem Confirmed.settled (h : Confirmed config commitment t) :
    Settled config commitment limit t := by
  obtain ⟨b, hb, hc⟩ := h
  exact .inl ⟨b, hb, hc.settles⟩

theorem not_settled_nil : ¬ Settled config commitment limit ([] : List (Wire.Event τ)) :=
  not_settled_of_host Host.Only.nil

theorem confirmed_of_statuses {t' : List (Wire.Event τ)}
    (h : Wire.statuses config t = Wire.statuses config t') :
    Confirmed config commitment t ↔ Confirmed config commitment t' := by
  rw [Confirmed, Confirmed, h]

/-! ## One poll -/

section
variable {params : List Json}

/-- A question about the status settles what its result settles. -/
theorem settled_of_status {a : Except Failure (Option SignatureStatus)}
    (h : Wire.Heard config "getSignatureStatuses" params Result.status t a) :
    Settled config commitment limit t ↔ Settles commitment a := by
  have hnone : Wire.heights config t = [] := h.answers_eq_nil (by decide)
  rw [Settled, hnone, h.exists_iff (by simp [Settles, Failure.isTransport])]
  simp

theorem confirmed_of_status {a : Except Failure (Option SignatureStatus)}
    (h : Wire.Heard config "getSignatureStatuses" params Result.status t a) :
    Confirmed config commitment t ↔ Confirms commitment a :=
  h.exists_iff (by simp [Confirms])

/-- A question about the height settles what its result settles, and does not ask about the
status. -/
theorem settled_of_height {a : Except Failure Json}
    (h : Wire.Heard config "getBlockHeight" params Result.height t a) :
    (Settled config commitment limit t ↔ Passes limit a) ∧
      Wire.statuses config t = [] := by
  have hnone : Wire.statuses config t = [] := h.answers_eq_nil (by decide)
  refine ⟨?_, hnone⟩
  rw [Settled, hnone, h.exists_iff (by simp [Passes, Failure.isTransport])]
  simp

end

/-- The result of a poll says what its answers say. -/
structure PollTells (config : SessionConfig τ) (commitment : Commitment) (signature limit : Json)
    (t : List (Wire.Event τ)) (r : Except Failure (Option Outcome)) : Prop where
  pending_iff : r = .ok none ↔ ¬ Settled config commitment limit t
  confirmed_iff : Confirmed config commitment t ↔
    ∃ o, r = .ok (some o) ∧ o.verdict = .confirmed
  last : Confirmed config commitment t → ∃ b,
    (Wire.statuses config t).getLast? = some b ∧ Confirms commitment b.2
  outcome : ∀ o, r = .ok (some o) → o.signature = signature ∧ o.verdict ≠ .unknown

/-- What is asked behind the question about the status may settle something, but does not
confirm. -/
theorem pollTells_of_status {params : List Json} {a : Except Failure (Option SignatureStatus)}
    {r : Except Failure (Option Outcome)}
    (h : Wire.Heard config "getSignatureStatuses" params Result.status t₁ a)
    (hnone : Wire.statuses config t₂ = [])
    (hpending : r = .ok none ↔ ¬ Settles commitment a ∧ ¬ Settled config commitment limit t₂)
    (hconfirmed : Confirms commitment a ↔ ∃ o, r = .ok (some o) ∧ o.verdict = .confirmed)
    (houtcome : ∀ o, r = .ok (some o) → o.signature = signature ∧ o.verdict ≠ .unknown) :
    PollTells config commitment signature limit (t₁ ++ t₂) r := by
  have hstatuses : Wire.statuses config (t₁ ++ t₂) = Wire.statuses config t₁ := by
    simp [hnone]
  have hconf : Confirmed config commitment (t₁ ++ t₂) ↔ Confirms commitment a :=
    (confirmed_of_statuses hstatuses).trans (confirmed_of_status h)
  refine ⟨?_, hconf.trans hconfirmed, ?_, houtcome⟩
  · rw [hpending, settled_append, settled_of_status h, not_or]
  · intro hc
    have hlast : ¬ Wire.Passing (params, a) := by
      intro ⟨fault, hf⟩
      obtain ⟨status, hs, -⟩ := hconf.1 hc
      rw [hs] at hf
      cases hf
    rw [hstatuses, h.getLast?_eq hlast]
    exact ⟨_, rfl, hconf.1 hc⟩

/-- What a question fails with is an error of the client if that is what the poll fails with, since
polling goes on after a transport error only. -/
theorem client_of_transport {α β : Type} {f : Failure} {r : Except Failure α} {a : α}
    (hclient : FailsOnly Failure.IsClient r) (hr : r = if f.isTransport then .ok a else .error f) :
    FailsOnly Failure.IsClient (.error f : Except Failure β) := by
  refine .error ?_
  cases f with
  | client error => exact ⟨error, rfl⟩
  | fault kind message => exact hclient hr

theorem heightFault_eq_none_iff (signature : Json) {answer : Except Failure Json} :
    heightFault signature limit answer = none ↔ ¬ Passes limit answer := by
  cases answer with
  | error f => cases hf : f.isTransport <;> simp [heightFault, Passes, hf]
  | ok height => rcases hx : height.exceeds? limit with _ | _ | _ <;> simp [heightFault, Passes, hx]

theorem poll_tells [Seconds τ] {r : Except Failure (Option Outcome)}
    (h : Run (poll Wire.host (Session.ledger Wire.host Wire.transport config) commitment signature
      limit) t r) (hclient : FailsOnly Failure.IsClient r) :
    PollTells config commitment signature limit t r := by
  cases poll_cases h with
  | @failed t₁ t₂ f _ hs ht hr =>
    have hheard := Session.call_heard hs (client_of_transport hclient hr)
    refine pollTells_of_status hheard (Wire.answers_of_host ht) ?_ ?_ ?_
    · cases hf : f.isTransport <;> simp [hr, hf, Settles, not_settled_of_host ht]
    · cases hf : f.isTransport <;> simp [hr, hf, Confirms]
    · cases hf : f.isTransport <;> simp [hr, hf]
  | missing hs =>
    rw [← List.append_nil t]
    refine pollTells_of_status (Session.call_heard hs (.ok _)) (Wire.answers_nil) ?_ ?_ ?_
    · simp [Settles, not_settled_nil]
    · simp [Confirms]
    · simp
  | @told t₁ t₂ status _ hs ht hr =>
    refine pollTells_of_status (Session.call_heard hs (.ok _)) (Wire.answers_of_host ht) ?_ ?_ ?_
    · rw [and_iff_left (not_settled_of_host ht)]
      exact hr.eq_none_iff
    · rw [← hr.confirmed_iff]
      simp [Confirms]
    · exact fun o => hr.outcome
  | @aged t₁ t₂ t₃ answer _ hs hh ht hr =>
    have hanswer : FailsOnly Failure.IsClient answer := by
      cases answer with
      | ok height => exact .ok _
      | error f =>
        have hf : r = if f.isTransport then .ok none else .error f := by
          rw [hr]
          cases hf : f.isTransport <;> simp [heightFault, hf]
        exact client_of_transport hclient hf
    obtain ⟨hsettled, hnone⟩ := settled_of_height (Session.call_heard hh hanswer)
    have hrest : Settled config commitment limit (t₂ ++ t₃) ↔ Passes limit answer := by
      rw [settled_append, hsettled, or_iff_left (not_settled_of_host ht)]
    refine pollTells_of_status (Session.call_heard hs (.ok _)) ?_ ?_ ?_ ?_
    · simp [hnone, Wire.answers_of_host ht]
    · rw [hrest, ← heightFault_eq_none_iff signature, hr]
      cases heightFault signature limit answer <;> simp [Settles]
    · cases hf : heightFault signature limit answer <;> simp [hr, hf, Confirms]
    · cases hf : heightFault signature limit answer <;> simp [hr, hf]

/-! ## Polling -/

/-- The result of sending a transaction says what was heard: it is confirmed exactly if an answer
confirms, and then that is the last one and about its signature; and it is unknown exactly in the
situation `Pending`, of which `Undecided` then holds for its signature. -/
structure Tells (config : SessionConfig τ) (commitment : Commitment) (Pending : Prop)
    (Undecided : Json → Prop) (t : List (Wire.Event τ)) (r : Except Failure Outcome) : Prop where
  confirmed : Confirmed config commitment t → ∃ o, r = .ok o ∧ o.verdict = .confirmed
  last : ∀ o, r = .ok o → o.verdict = .confirmed → ∃ b,
    (Wire.statuses config t).getLast? = some b ∧ Confirms commitment b.2 ∧
      Wire.About o.signature b.1
  pending : Pending → ∃ o, r = .ok o ∧ o.verdict = .unknown
  unknown : ∀ o, r = .ok o → o.verdict = .unknown → Undecided o.signature

/-- A request of polling is about the signature or about the block height. -/
def Polls (signature : Json) (e : Wire.Event τ) : Prop :=
  ∀ request reply, e = .transport (.posted request reply) →
    request.method = "getSignatureStatuses" ∧ Wire.About signature request.params ∨
      request.method = "getBlockHeight"

section
variable [Seconds τ]

theorem await_polls_wire :
    Leaves (Polls signature) (await (τ := τ) Wire.host
      (Session.ledger Wire.host Wire.transport config) commitment polling signature limit) := by
  refine await_leaves (by rintro _ _ _ ⟨⟩) (poll_leaves (by rintro _ _ _ ⟨⟩) ?_ ?_)
  · intro t r h e he request reply hp
    obtain ⟨a, hcall, -⟩ := run_read.1 h
    rw [hp] at he
    cases Session.call_own hcall _ he with
    | posted => exact .inl ⟨rfl, rfl⟩
  · intro t r h e he request reply hp
    obtain ⟨a, hcall, -⟩ := run_read.1 h
    rw [hp] at he
    cases Session.call_own hcall _ he with
    | posted => exact .inr rfl

omit [Seconds τ] in
theorem settled_iff_exists : Settled config commitment limit t ↔
    ∃ e ∈ t, Settled config commitment limit [e] := by
  induction t with
  | nil => simp [not_settled_nil]
  | cons e t ih =>
    have hcons : e :: t = [e] ++ t := rfl
    rw [hcons, settled_append, ih]
    simp

/-- Nothing is decided while polling goes on. -/
theorem not_settled_of_idle
    (ht : ∀ e ∈ t, Idle .host (Session.ledger Wire.host Wire.transport config) commitment signature
      limit e) : ¬ Settled config commitment limit t := by
  intro h
  obtain ⟨e, he, hsettled⟩ := settled_iff_exists.1 h
  obtain ⟨h, rfl⟩ | ⟨t', hpoll, he'⟩ := ht e he
  · exact not_settled_of_host Host.Only.nil.cons hsettled
  · exact (poll_tells hpoll (.ok _)).pending_iff.1 rfl (settled_iff_exists.2 ⟨e, he', hsettled⟩)

omit [Seconds τ] in
/-- If nothing was decided before the last poll, that poll tells the result. -/
theorem tells_of_poll {Undecided : Json → Prop} {r : Except Failure Outcome}
    (hbefore : ¬ Settled config commitment limit t₁)
    (hpoll : PollTells config commitment signature limit t₂ (r.map some))
    (habout : ∀ b ∈ Wire.statuses config (t₁ ++ t₂), Wire.About signature b.1) :
    Tells config commitment (¬ Settled config commitment limit (t₁ ++ t₂)) Undecided
      (t₁ ++ t₂) r := by
  have hsome : ∀ o, r.map some = .ok (some o) ↔ r = .ok o := by
    cases r <;> simp [Except.map]
  refine ⟨?confirmed, ?last, ?pending, ?unknown⟩
  case confirmed =>
    intro hconfirmed
    have hc : Confirmed config commitment t₂ :=
      (confirmed_append.1 hconfirmed).resolve_left fun h => hbefore h.settled
    obtain ⟨o, ho, hv⟩ := hpoll.confirmed_iff.1 hc
    exact ⟨o, (hsome o).1 ho, hv⟩
  case last =>
    intro o ho hv
    have ho' := (hsome o).2 ho
    obtain ⟨b, hb, hc⟩ := hpoll.last (hpoll.confirmed_iff.2 ⟨o, ho', hv⟩)
    have hlast : (Wire.statuses config (t₁ ++ t₂)).getLast? = some b :=
      Wire.getLast?_answers_append hb
    rw [(hpoll.outcome o ho').1]
    exact ⟨b, hlast, hc, habout b (List.mem_of_getLast? hlast)⟩
  case pending =>
    intro hopen
    have hnone := hpoll.pending_iff.2 fun h => hopen (settled_append.2 (.inr h))
    cases r <;> cases hnone
  case unknown =>
    intro o ho hv
    exact absurd hv (hpoll.outcome o ((hsome o).2 ho)).2

/-- Nothing decisive happens before the last poll, nor in the end if the time is up. -/
theorem await_tells {r : Except Failure Outcome}
    (h : Run (await Wire.host (Session.ledger Wire.host Wire.transport config) commitment polling
      signature limit) t r) (hclient : FailsOnly Failure.IsClient r) :
    Tells config commitment (¬ Settled config commitment limit t)
      (fun s => ¬ Settled config commitment limit t ∧
        TimeUp polling.timeout (Wire.times t) ∧
        ∀ b ∈ Wire.statuses config t, Wire.About s b.1) t r := by
  have habout : ∀ b ∈ Wire.statuses config t, Wire.About signature b.1 := by
    intro b hb
    obtain ⟨request, reply, he, hm, rfl⟩ := Wire.mem_answers.1 hb
    obtain ⟨-, habout⟩ | hheight := await_polls_wire h _ he request reply rfl
    · exact habout
    · exact absurd (hm.symm.trans hheight) (by decide)
  obtain ⟨start, t', rfl, hawaited⟩ := await_cases h
  cases hawaited with
  | @polled t₁ t₂ _ hidle hpoll =>
    have hbefore : ¬ Settled config commitment limit (.host (.read start) :: t₁) :=
      not_settled_of_idle (List.forall_mem_cons.2 ⟨.inl ⟨_, rfl⟩, hidle⟩)
    have hcaught : FailsOnly Failure.IsClient (r.map some) := by
      cases r with
      | ok o => exact .ok _
      | error f => exact .error (hclient rfl)
    exact tells_of_poll hbefore (poll_tells hpoll hcaught) habout
  | @timedOut t₁ now line o hidle hup hs hv =>
    have hopen : ¬ Settled config commitment limit
        ((.host (.read start) :: t₁) ++ [.host (.read now), .host (.logged line)]) := by
      rw [settled_append, not_or]
      exact ⟨not_settled_of_idle (List.forall_mem_cons.2 ⟨.inl ⟨_, rfl⟩, hidle⟩),
        not_settled_of_host Host.Only.nil.cons.cons⟩
    have htimes : TimeUp polling.timeout
        (Wire.times ((.host (.read start) :: t₁) ++ [.host (.read now), .host (.logged line)])) := by
      refine ⟨start, now, rfl, ?_, hup⟩
      rw [Wire.times_append, List.getLast?_append]
      rfl
    refine ⟨fun hconfirmed => absurd hconfirmed.settled hopen, ?last, fun _ => ⟨o, rfl, hv⟩,
      ?unknown⟩
    case last =>
      intro o' ho hv'
      cases ho
      rw [hv] at hv'
      cases hv'
    case unknown =>
      intro o' ho _
      cases ho
      rw [hs]
      exact ⟨hopen, htimes, habout⟩

end

/-! ## A submission -/

/-- The node accepted a transaction, and nothing decisive was answered. -/
def Open (config : SessionConfig τ) (commitment : Commitment) (limit : Json)
    (t : List (Wire.Event τ)) : Prop :=
  (∃ b ∈ Wire.receipts config t, Accepts b.2) ∧ ¬ Settled config commitment limit t

/-- Nothing was asked about a transaction. -/
structure Silent (config : SessionConfig τ) (t : List (Wire.Event τ)) : Prop where
  receipts : Wire.receipts config t = []
  statuses : Wire.statuses config t = []
  heights : Wire.heights config t = []

theorem silent_of_host (ht : Host.Only .host t) : Silent config t :=
  ⟨Wire.answers_of_host ht, Wire.answers_of_host ht, Wire.answers_of_host ht⟩

theorem Silent.open_append_iff (h : Silent config t₁) :
    Open config commitment limit (t₁ ++ t₂) ↔ Open config commitment limit t₂ := by
  simp [Open, Settled, h.receipts, h.statuses, h.heights]

theorem Silent.append_open_iff (h : Silent config t₂) :
    Open config commitment limit (t₁ ++ t₂) ↔ Open config commitment limit t₁ := by
  simp [Open, Settled, h.receipts, h.statuses, h.heights]

/-- In sending nothing is heard but whether the transaction is accepted. -/
structure SentTells (config : SessionConfig τ) (t : List (Wire.Event τ))
    (answer : Except Failure Json) : Prop where
  accepted_iff : (∃ b ∈ Wire.receipts config t, Accepts b.2) ↔ ∃ s, answer = .ok s
  checkpoints : Wire.checkpoints config t = []
  statuses : Wire.statuses config t = []
  heights : Wire.heights config t = []
  times : Wire.times t = []

namespace SentTells

variable {answer : Except Failure Json}

theorem not_settled (h : SentTells config t answer) :
    ¬ Settled config commitment limit t := by
  simp [Settled, h.statuses, h.heights]

/-- Reports do not count. -/
theorem append_logged (h : SentTells config t answer) (lines : List Log.Line) :
    SentTells config (t ++ lines.map fun line => .host (.logged line)) answer := by
  have hhost : Host.Only Wire.Event.host
      (lines.map fun line => (.host (.logged line) : Wire.Event τ)) := by
    intro e he
    obtain ⟨line, -, rfl⟩ := List.mem_map.1 he
    exact ⟨_, rfl⟩
  have htimes : Wire.times (lines.map fun line => (.host (.logged line) : Wire.Event τ)) = [] := by
    simp [Wire.times]
  refine ⟨?_, ?_, ?_, ?_, ?_⟩
  · rw [← h.accepted_iff]
    simp [Wire.answers_of_host hhost]
  · simp [Wire.answers_of_host hhost, h.checkpoints]
  · simp [Wire.answers_of_host hhost, h.statuses]
  · simp [Wire.answers_of_host hhost, h.heights]
  · simp [htimes, h.times]

end SentTells

theorem sentTells_of_heard {params : List Json} {a answer : Except Failure Json}
    (h : Wire.Heard config "sendTransaction" params Result.signature t a)
    (ha : Accepts a ↔ ∃ s, answer = .ok s) : SentTells config t answer where
  accepted_iff := (h.exists_iff fun fault => id).trans ha
  checkpoints := h.answers_eq_nil (by decide)
  statuses := h.answers_eq_nil (by decide)
  heights := h.answers_eq_nil (by decide)
  times := h.times_eq_nil

theorem sent_tells [Seconds τ] {answer : Except Failure Json}
    (h : Sent .host (Session.ledger Wire.host Wire.transport config) envelope t answer)
    (hclient : FailsOnly Failure.IsClient answer) : SentTells config t answer := by
  cases h with
  | accepted h => exact sentTells_of_heard (Session.call_heard h hclient) (by simp [Accepts])
  | @processed t₁ rejection line h hp =>
    have hsaid : SentTells config t₁ (.ok (.text envelope.signature)) :=
      sentTells_of_heard (Session.call_heard h (.error ⟨_, rfl⟩)) (by simp [Accepts, hp])
    exact hsaid.append_logged [line]
  | @refused _ f h hn =>
    refine sentTells_of_heard (Session.call_heard h (.error (hclient rfl))) ?_
    refine iff_of_false (fun haccepts => ?_) (by simp)
    unfold Accepts at haccepts
    split at haccepts
    · next hok => cases hok
    · next rejection hf =>
      cases hf
      rw [hn rejection rfl] at haccepts
      cases haccepts
    · exact haccepts

section
variable [Seconds τ]

/-- The result of a submission tells whether the transaction was confirmed, and whether it was
accepted and left open until the time was up. -/
theorem submit_tells {r : Except Failure Outcome}
    (h : Run (submit Wire.host (Session.ledger Wire.host Wire.transport config) commitment polling
      envelope) t r) (hclient : FailsOnly Failure.IsClient r) :
    Tells config commitment
      (Open config commitment envelope.checkpoint.lastValidHeight t)
      (fun s => Open config commitment envelope.checkpoint.lastValidHeight t ∧
        TimeUp polling.timeout (Wire.times t) ∧
        ∀ b ∈ Wire.statuses config t, Wire.About s b.1) t r := by
  obtain ⟨f, hsent, rfl⟩ | ⟨t₁, signature, t₃, lines, hsent, rfl, hawait⟩ := submit_cases h
  · have hsaid := sent_tells hsent (.error (hclient rfl))
    refine ⟨?confirmed, nofun, ?pending, nofun⟩
    case confirmed =>
      intro ⟨b, hb, _⟩
      rw [hsaid.statuses] at hb
      cases hb
    case pending =>
      intro hopen
      obtain ⟨s, hs⟩ := hsaid.accepted_iff.1 hopen.1
      cases hs
  · have hsaid := (sent_tells hsent (.ok _)).append_logged lines
    have htold := await_tells hawait hclient
    -- what is polled stands behind an accepted transaction, and tells the same
    rw [← List.append_assoc]
    generalize t₁ ++ lines.map (fun line => (.host (.logged line) : Wire.Event τ)) = before
      at hsaid ⊢
    have hstatuses : Wire.statuses config (before ++ t₃) =
        Wire.statuses config t₃ := by
      simp [hsaid.statuses]
    have htimes : Wire.times (before ++ t₃) = Wire.times t₃ := by
      simp [hsaid.times]
    have hopen : Open config commitment envelope.checkpoint.lastValidHeight
        (before ++ t₃) ↔
          ¬ Settled config commitment envelope.checkpoint.lastValidHeight t₃ := by
      rw [Open, settled_append, or_iff_right hsaid.not_settled, and_iff_right]
      obtain ⟨b, hb, haccepts⟩ := hsaid.accepted_iff.2 ⟨signature, rfl⟩
      exact ⟨b, by simp [hb], haccepts⟩
    refine ⟨?_, ?_, fun h => htold.pending (hopen.1 h), ?_⟩
    · exact fun hconfirmed => htold.confirmed ((confirmed_of_statuses hstatuses).1 hconfirmed)
    · rw [hstatuses]
      exact htold.last
    · rw [hopen, hstatuses, htimes]
      exact htold.unknown

/-- A submission asks for no block hash. -/
theorem submit_checkpoints {r : Except Failure Outcome}
    (h : Run (submit Wire.host (Session.ledger Wire.host Wire.transport config) commitment polling
      envelope) t r) (hclient : FailsOnly Failure.IsClient r) :
    Wire.checkpoints config t = [] := by
  obtain ⟨f, hsent, rfl⟩ | ⟨t₁, signature, t₃, lines, hsent, rfl, hawait⟩ := submit_cases h
  · exact (sent_tells hsent (.error (hclient rfl))).checkpoints
  · have hpolls : Wire.checkpoints config t₃ = [] := by
      refine Wire.answers_eq_nil fun request reply he hm => ?_
      obtain ⟨hstatus, -⟩ | hheight := await_polls_wire hawait _ he request reply rfl
      · exact absurd (hm.symm.trans hstatus) (by decide)
      · exact absurd (hm.symm.trans hheight) (by decide)
    have hsaid := (sent_tells hsent (.ok _)).append_logged lines
    rw [← List.append_assoc]
    simp only [Wire.answers_append, hsaid.checkpoints, hpolls, List.append_nil]

end

end StorageAgent.Confirmation
