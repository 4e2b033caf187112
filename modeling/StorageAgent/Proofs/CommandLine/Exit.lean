import StorageAgent.CommandLine.Run
import StorageAgent.Proofs.Client.Told
import StorageAgent.Proofs.Confirmation.Report

/-!
# What the exit tells

A line that asks for a transaction ends with an exit, and a shell goes by that: 0 for a confirmed
transaction, 2 for one whose outcome is not known, 1 for anything else. Whatever the endpoint
replies, the exit says what the replies said, and the line that is printed names the signature that
was asked about last.

But not every line that can be read gets that far. A level that is a reserved word of the log, or a
keypair file in a home that is not known, ends it with a fault.

* `Truthful`: the exit says what was heard.
* `exit_truthful`: a line is planned exactly if it can be prepared, and then its exit is truthful.
* `faulty_reserved_level`: a line that is read and cannot be planned.
-/
namespace StorageAgent.CommandLine

open Behaviour Confirmation

variable {s : Settings} {room : Capacity} {t : List (Wire.Event Float)}

/-! ## The exit of an operation -/

/-- The exit of a run says what was heard in it. -/
structure Truthful (s : Settings) (room : Capacity) (t : List (Wire.Event Float)) (report : Report)
    (exit : Exit) : Prop where
  /-- The last answer about a status is that of a transaction that landed well and has reached the
  level. -/
  ok_iff : exit = .ok ↔ ∃ params status,
    (Wire.statuses (s.session room) t).getLast? = some (params, .ok (some status)) ∧
      status.failed = false ∧ status.reaches s.commitment = true
  /-- The last transaction was accepted, nothing decisive was answered, and the time is up. -/
  unknown_iff : exit = .unknown ↔ Client.Pending (s.session room) s.commitment t ∧
    TimeUp s.confirmTimeout (Wire.times (Wire.sinceCheckpoint t))
  failed : exit ≠ .ok → exit ≠ .unknown → exit = .failed
  /-- The signature in the report is the one that was asked about last, unless the time was up
  before the last transaction was asked about at all. -/
  signature : exit = .ok ∨ exit = .unknown → ∃ o, report.lines = outcomeLines o ∧
    exit = Exit.ofVerdict o.verdict ∧
      ((∃ b, (Wire.statuses (s.session room) t).getLast? = some b ∧
          Wire.About o.signature b.1) ∨
        exit = .unknown ∧ Wire.statuses (s.session room) (Wire.sinceCheckpoint t) = [])

/-- A command that is an operation reports its result. -/
theorem reports_of_operation {x : ExceptT Failure (Behaviour (Wire.Event Float)) Outcome}
    {report : Report}
    (htells : ∀ {t r}, Run x t r → FailsOnly Failure.IsClient r →
      Client.OperationTells (s.session room) s.commitment s.confirmTimeout t r)
    (h : (x.run >>= fun r => pure (Report.ofOutcome r) : Behaviour _ Report) t report) :
    ∃ r, report = Report.ofOutcome r ∧ (FailsOnly Failure.IsClient r →
      Client.OperationTells (s.session room) s.commitment s.confirmTimeout t r) := by
  obtain ⟨_, r, _, hr, ⟨rfl, rfl⟩, rfl⟩ := bind_iff.1 h
  rw [List.append_nil]
  exact ⟨r, rfl, htells hr⟩

theorem run_reports {key : Except Failure Key} {command : Command} {report : Report}
    (hcommand : command ≠ .status)
    (h : run Wire.host Wire.transport room s key command t report) :
    ∃ r, report = Report.ofOutcome r ∧ (FailsOnly Failure.IsClient r →
      Client.OperationTells (s.session room) s.commitment s.confirmTimeout t r) := by
  cases key with
  | error failure =>
    obtain ⟨rfl, rfl⟩ := pure_iff.1 h
    exact ⟨.error failure, rfl, fun _ => Client.tells_of_unsent rfl rfl⟩
  | ok key =>
    cases command with
    | init => exact reports_of_operation Client.perform_tells h
    | register => exact reports_of_operation Client.perform_tells h
    | remove clientId => exact reports_of_operation Client.perform_tells h
    | send draft => exact reports_of_operation Client.sendRequest_tells h
    | status => exact absurd rfl hcommand

theorem Exit.ofVerdict_eq_ok_iff {v : Verdict} : Exit.ofVerdict v = .ok ↔ v = .confirmed := by
  cases v <;> decide

theorem Exit.ofVerdict_eq_unknown_iff {v : Verdict} :
    Exit.ofVerdict v = .unknown ↔ v = .unknown := by
  cases v <;> decide

/-- A report ends with a fault, or with the exit of its outcome; an error of the client is a
failure. -/
theorem ofOutcome_cases (r : Except Failure Outcome) :
    (∃ o, r = .ok o ∧ Report.ofOutcome r = ⟨outcomeLines o, .ok (Exit.ofVerdict o.verdict)⟩) ∨
      (∃ e, r = .error (.client e) ∧ (Report.ofOutcome r).exit = .ok .failed) ∨
      ∃ f, r = .error f ∧ ¬ f.IsClient ∧ (Report.ofOutcome r).exit = .error f := by
  cases r with
  | ok o => exact .inl ⟨o, rfl, rfl⟩
  | error f =>
    cases f with
    | client e => exact .inr (.inl ⟨e, rfl, rfl⟩)
    | fault kind message =>
      exact .inr (.inr ⟨_, rfl, Failure.not_isClient_fault kind message, rfl⟩)

theorem truthful_of_tells {r : Except Failure Outcome} {report : Report} {exit : Exit}
    (hok : exit = .ok ↔ ∃ o, r = .ok o ∧ o.verdict = .confirmed)
    (hunknown : exit = .unknown ↔ ∃ o, r = .ok o ∧ o.verdict = .unknown)
    (hfailed : exit ≠ .ok → exit ≠ .unknown → exit = .failed)
    (hlines : ∀ o, r = .ok o → report.lines = outcomeLines o ∧ exit = Exit.ofVerdict o.verdict)
    (h : Client.OperationTells (s.session room) s.commitment s.confirmTimeout t r) :
    Truthful s room t report exit := by
  refine ⟨?_, ?_, hfailed, ?_⟩
  · rw [hok]
    constructor
    · intro ⟨o, ho, hv⟩
      obtain ⟨⟨params, answer⟩, hlast, ⟨status, hanswer, hconfirms⟩, -⟩ := h.last o ho hv
      dsimp only at hanswer
      rw [hanswer] at hlast
      exact ⟨params, status, hlast, hconfirms⟩
    · intro ⟨params, status, hlast, hconfirms⟩
      exact h.confirmed ⟨_, List.mem_of_getLast? hlast, status, rfl, hconfirms⟩
  · rw [hunknown]
    constructor
    · intro ⟨o, ho, hv⟩
      obtain ⟨hpending, htime, -⟩ := h.unknown o ho hv
      exact ⟨hpending, htime⟩
    · exact fun hpending => h.pending hpending.1
  · intro hexit
    rcases hexit with hexit | hexit
    · obtain ⟨o, ho, hv⟩ := hok.1 hexit
      obtain ⟨b, hlast, -, habout⟩ := h.last o ho hv
      exact ⟨o, (hlines o ho).1, (hlines o ho).2, .inl ⟨b, hlast, habout⟩⟩
    · obtain ⟨o, ho, hv⟩ := hunknown.1 hexit
      obtain ⟨-, -, habout⟩ := h.unknown o ho hv
      refine ⟨o, (hlines o ho).1, (hlines o ho).2, ?_⟩
      cases hlast : (Wire.statuses (s.session room) (Wire.sinceCheckpoint t)).getLast? with
      | none => exact .inr ⟨hexit, List.getLast?_eq_none_iff.1 hlast⟩
      | some b =>
        refine .inl ⟨b, ?_, habout b (List.mem_of_getLast? hlast)⟩
        obtain ⟨before, hbefore⟩ := Wire.exists_append_sinceCheckpoint t
        rw [← hbefore]
        exact Wire.getLast?_answers_append hlast

/-- A run ends with a truthful exit, or with a fault of its own. -/
theorem run_truthful {key : Except Failure Key} {command : Command} {report : Report}
    (hcommand : command ≠ .status) (h : run Wire.host Wire.transport room s key command t report) :
    (∃ f, report.exit = .error f ∧ ¬ f.IsClient) ∨
      ∃ exit, report.exit = .ok exit ∧ Truthful s room t report exit := by
  obtain ⟨r, rfl, htells⟩ := run_reports hcommand h
  rcases ofOutcome_cases r with ⟨o, rfl, hreport⟩ | ⟨e, rfl, hexit⟩ | ⟨f, rfl, hf, hexit⟩
  · rw [hreport]
    refine .inr ⟨_, rfl, truthful_of_tells ?_ ?_ ?_ ?_ (htells (.ok o))⟩
    · simp [Exit.ofVerdict_eq_ok_iff]
    · simp [Exit.ofVerdict_eq_unknown_iff]
    · cases o.verdict <;> simp [Exit.ofVerdict]
    · intro o' ho
      cases ho
      exact ⟨rfl, rfl⟩
  · refine .inr ⟨_, hexit, truthful_of_tells ?_ ?_ ?_ ?_ (htells (.error ⟨e, rfl⟩))⟩
    · simp
    · simp
    · simp
    · simp
  · exact .inl ⟨f, hexit, hf⟩

/-! ## Plans -/

/-- A line can be prepared: the home that its keypair file lies in is known, and the level of its
log is no reserved word. -/
structure Invocation.Preparable (homes : Homes) (s : Settings) (i : Invocation) : Prop where
  home : ∀ text, given? i.keypair = some text → ∃ path, (Path.parse text).expand homes = .ok path
  level : Log.reservedWords.lookup (Text.upper ((given? i.logLevel).getD s.logLevel)) = none

section
variable {homes : Homes} {asJson : Bool} {i : Invocation} {words : List String} {command : Command}

/-- The settings of a line keep the level of the log. -/
theorem override_logLevel {s' : Settings} (h : i.override homes s = .ok s') :
    s'.logLevel = s.logLevel := by
  rw [Invocation.override] at h
  split at h
  · cases h
    rfl
  · obtain ⟨path, -, h⟩ := bind_eq_ok_iff.1 h
    cases h
    rfl

theorem exists_override_iff : (∃ s', i.override homes s = .ok s') ↔
    ∀ text, given? i.keypair = some text → ∃ path, (Path.parse text).expand homes = .ok path := by
  rw [Invocation.override]
  split
  · next hnone => simp [hnone, pure, Except.pure]
  · next text hsome =>
    constructor
    · intro ⟨s', h⟩ text' htext
      cases hsome.symm.trans htext
      obtain ⟨path, hpath, -⟩ := bind_eq_ok_iff.1 h
      exact ⟨path, hpath⟩
    · intro h
      obtain ⟨path, hpath⟩ := h text hsome
      exact ⟨_, bind_eq_ok_iff.2 ⟨path, hpath, rfl⟩⟩

theorem exists_threshold_iff {name : String} : (∃ threshold, Log.thresholdOf name = .ok threshold) ↔
    Log.reservedWords.lookup (Text.upper name) = none := by
  unfold Log.thresholdOf
  dsimp only
  split
  · next kind hword => simp [hword]
  · next hnone => simp [hnone]

/-- A level that is missing or empty is that of the settings. -/
theorem given?_getD {level : Option String} : (given? level).getD s.logLevel =
    match level with
    | some name => if name.isEmpty then s.logLevel else name
    | none => s.logLevel := by
  cases level with
  | none => rfl
  | some name => cases hempty : name.isEmpty <;> simp [given?, Option.filter, hempty]

theorem exists_setup_iff {level : Option String} :
    (∃ log, Log.Setup.of level asJson s = .ok log) ↔
      Log.reservedWords.lookup (Text.upper ((given? level).getD s.logLevel)) = none := by
  rw [← exists_threshold_iff, given?_getD]
  constructor
  · intro ⟨log, h⟩
    obtain ⟨threshold, hthreshold, -⟩ := bind_eq_ok_iff.1 h
    exact ⟨threshold, hthreshold⟩
  · exact fun ⟨threshold, h⟩ => ⟨_, bind_eq_ok_iff.2 ⟨threshold, h, rfl⟩⟩

theorem plan_eq (hread : (Grammar.whole s.rpcUrl s.keypairPath).read words = .ok i)
    (hcommand : i.command = some command) : plan homes asJson s words =
      i.override homes s >>= fun s' =>
        Log.Setup.of i.logLevel asJson s' >>= fun log => .ok (.run command s' log) := by
  unfold plan
  simp only [hread, hcommand]
  rfl

theorem plan_eq_ok_iff {p : Plan}
    (hread : (Grammar.whole s.rpcUrl s.keypairPath).read words = .ok i)
    (hcommand : i.command = some command) :
    plan homes asJson s words = .ok p ↔ ∃ s' log, i.override homes s = .ok s' ∧
      Log.Setup.of i.logLevel asJson s' = .ok log ∧ p = .run command s' log := by
  rw [plan_eq hread hcommand, bind_eq_ok_iff]
  constructor
  · intro ⟨s', hs', h⟩
    obtain ⟨log, hlog, hp⟩ := bind_eq_ok_iff.1 h
    cases hp
    exact ⟨s', log, hs', hlog, rfl⟩
  · intro ⟨s', log, hs', hlog, hp⟩
    exact ⟨s', hs', bind_eq_ok_iff.2 ⟨log, hlog, by rw [hp]⟩⟩

/-- A line that asks for a transaction is planned exactly if it can be prepared. -/
theorem exists_plan_iff (hread : (Grammar.whole s.rpcUrl s.keypairPath).read words = .ok i)
    (hcommand : i.command = some command) :
    (∃ p, plan homes asJson s words = .ok p) ↔ i.Preparable homes s := by
  constructor
  · intro ⟨p, hp⟩
    obtain ⟨s', log, hs', hlog, -⟩ := (plan_eq_ok_iff hread hcommand).1 hp
    have hlevel := exists_setup_iff.1 ⟨log, hlog⟩
    rw [override_logLevel hs'] at hlevel
    exact ⟨exists_override_iff.1 ⟨s', hs'⟩, hlevel⟩
  · intro hprepared
    obtain ⟨s', hs'⟩ := exists_override_iff.2 hprepared.home
    have hlevel := hprepared.level
    rw [← override_logLevel hs'] at hlevel
    obtain ⟨log, hlog⟩ := exists_setup_iff.2 hlevel
    exact ⟨_, (plan_eq_ok_iff hread hcommand).2 ⟨s', log, hs', hlog, rfl⟩⟩

end

/-! ## A line that asks for the bookkeeper -/

/-- Whether a line asks for the bookkeeper, with this level of the log and nothing else. -/
def asksInit (level : Option String) : Except Refusal Invocation → Bool
  | .ok ⟨none, none, l, some .init⟩ => l == level
  | _ => false

theorem asksInit_eq {level : Option String} {x : Except Refusal Invocation}
    (h : asksInit level x = true) : x = .ok ⟨none, none, level, some .init⟩ := by
  unfold asksInit at h
  split at h
  · rw [beq_iff_eq.1 h]
  · cases h

end StorageAgent.CommandLine

namespace StorageAgent.Sample

open Behaviour Confirmation

/-- Settings for the deployment, with an endpoint that has a name. -/
def settings : Settings where
  logLevel := "INFO"
  rpcUrl := "https://rpc.test"
  commitment := .confirmed
  rpcTimeout := 30.0
  rpcMaxRetries := 3
  rpcRetryDelay := 0.5
  program
  keypairPath := ⟨"/", ["id.json"]⟩
  unitLimit := Envelope.defaultUnitLimit
  confirmTimeout := 60.0
  pollInterval := 1.0
  maxStaleRetries := 3

/-- No home is known but one's own. -/
def homes : Homes := ⟨"/home", fun _ => none⟩

/-- The session of these settings. -/
def endpoint : SessionConfig Float := settings.session .standard

/-- The ledger of the endpoint. -/
def ledger : Ledger (Behaviour (Wire.Event Float)) :=
  Session.ledger Wire.host Wire.transport endpoint

theorem endpoint_named : endpoint.destination ≠ .relative := by decide

theorem endpoint_taken (reply : Reply) (method : String) :
    reply.taken endpoint method = reply.result Capacity.standard.nesting method :=
  Reply.taken_of_named endpoint_named method reply

/-- The reply that tells the block hash. -/
def checkpointReply : Reply := .response 200 (Text.Utf8.encode
  "\x7b\"result\":\x7b\"value\":\x7b\"blockhash\":\"cGfHiC6Kgg3FpFZvgwGcswsCRtp4aBP2fzuXRQPizuN\",\"lastValidBlockHeight\":100\x7d\x7d\x7d")

/-- The block hash and the limit of a checkpoint, if both are told. -/
def told? : Except Failure Checkpoint → Option (Blockhash × Int)
  | .ok ⟨some hash, .int limit⟩ => some (hash, limit)
  | _ => none

theorem checkpointReply_read :
    checkpointReply.taken endpoint "getLatestBlockhash" >>= Result.checkpoint = .ok checkpoint := by
  rw [endpoint_taken]
  have h : told? (checkpointReply.result Capacity.standard.nesting "getLatestBlockhash" >>=
      Result.checkpoint) = some (blockhash, 100) := by decide +kernel
  unfold told? at h
  split at h
  · next hash limit hread =>
    cases h
    exact hread
  · cases h

/-- The reply that accepts the transaction and tells its signature. -/
def receiptReply : Reply := .response 200 (Text.Utf8.encode
  "\x7b\"result\":\"3nrwXHDf1PFgH4knW9cCcu49HGsyEd3SUKswbBdmjrX9vWqKBeEp57S6YLxT9azDK3bGxQiGDPDNEetggWbMAXEw\"\x7d")

theorem receiptReply_read : receiptReply.taken endpoint "sendTransaction" >>= Result.signature =
    .ok (.text envelope.signature) := by
  rw [endpoint_taken]
  have hsignature : envelope.signature = "3nrwXHDf1PFgH4knW9cCcu49HGsyEd3SUKswbBdmjrX9vWqKBeEp57S6YLxT9azDK3bGxQiGDPDNEetggWbMAXEw" := by
    decide +kernel
  rw [hsignature]
  exact textOf?_eq_some (by decide +kernel)

/-- A question that is answered at once. -/
theorem asked_once {α : Type} {method : String} {params : List Json}
    {read : Json → Except Failure α} {a : α} (reply : Reply) (hgenuine : reply.Genuine)
    (hp : Json.allWritable params = true)
    (ha : reply.taken endpoint method >>= read = .ok a) :
    ∃ t, Run (Session.call Wire.host Wire.transport endpoint method params >>= fun result =>
      liftM (read result)) t (.ok a) := by
  have hn : ∀ f, reply.taken endpoint method = .error f → f.isTransport = false := by
    intro f hf
    rw [hf] at ha
    cases ha
  exact ⟨_, run_read.2
    ⟨_, Session.call_of_reply reply 1 (by decide) (by decide) hp hgenuine hn, ha.symm⟩⟩

/-- What the bookkeeper's creation comes to if it lands in this slot. -/
def outcome (slot : Json) : Outcome where
  signature := .text envelope.signature
  verdict := .confirmed
  slot

/-- The bookkeeper's creation is accepted, and confirmed by the first poll. -/
theorem attempt_confirmed : ∃ t slot,
    Run (Client.attempt Wire.host ledger (settings.client .standard key) instruction) t
      (.ok (outcome slot)) := by
  obtain ⟨status, hstatus, hf, hr⟩ := confirmedReply_status
  have hcheckpoint : ∃ t, Run ledger.latestBlockhash t (.ok checkpoint) :=
    asked_once checkpointReply trivial rfl checkpointReply_read
  have hsent : ∃ t, Run (ledger.send envelope.raw) t (.ok (.text envelope.signature)) :=
    asked_once receiptReply trivial rfl receiptReply_read
  have hpolled : ∃ t, Run (ledger.status (.text envelope.signature)) t (.ok (some status)) :=
    asked_once confirmedReply trivial rfl hstatus
  obtain ⟨t₁, hcheckpoint⟩ := hcheckpoint
  obtain ⟨t₂, hsent⟩ := hsent
  obtain ⟨t₃, hpolled⟩ := hpolled
  have htime : Seconds.lt (Seconds.sub (0 : Float) 0) (settings.client .standard key).polling.timeout =
      true := by decide
  have hpoll : ∃ t, Run (poll Wire.host ledger .confirmed (.text envelope.signature)
      checkpoint.lastValidHeight) t (.ok (some (outcome status.slot))) :=
    ⟨_, poll_of_status status t₃ hpolled (decided_of_reached hf hr)⟩
  obtain ⟨t₄, hpoll⟩ := hpoll
  have hawait := await_first (r := .ok (outcome status.slot)) every_rounds_ne_zero htime hpoll
  have hsubmit : ∃ t, Run (submit Wire.host ledger .confirmed
      (settings.client .standard key).polling envelope) t (.ok (outcome status.slot)) := ⟨_, submit_of_signature t₂ (send_of_accepted hsent) hawait⟩
  obtain ⟨t₅, hsubmit⟩ := hsubmit
  refine ⟨t₁ ++ ([] ++ ([.host (.logged ⟨.debug, .envelope, envelope.summary instruction⟩)] ++ t₅)),
    status.slot, ?_⟩
  refine run_bind.2 (.inl ⟨t₁, checkpoint, _, hcheckpoint, ?_, rfl⟩)
  refine run_bind.2 (.inl ⟨[], envelope, _, assembled, ?_, rfl⟩)
  exact run_lift_bind.2 ⟨[_], (), t₅, rfl, hsubmit, rfl⟩

theorem execute_confirmed : ∃ t slot,
    Run (Client.execute Wire.host ledger (settings.client .standard key) instruction) t
      (.ok (outcome slot)) := by
  obtain ⟨t, slot, hattempt⟩ := attempt_confirmed
  have hattempts : Run (Client.attempts Wire.host ledger (settings.client .standard key)
      instruction 4 1 .noAttempt) t (.ok (outcome slot)) :=
    ⟨t, .ok (outcome slot), [], hattempt, ⟨rfl, rfl⟩, by simp⟩
  refine ⟨[.host .acquired] ++ ([.host (.told (some ⟨instruction.opcode.name, key.address.text⟩))] ++
    (t ++ ([.host (.told none)] ++ ([.host .released] ++ [])))), slot, ?_⟩
  refine ⟨[_], (), _, rfl, ⟨[_], (), _, rfl, ⟨t, _, _, hattempts, ?_, rfl⟩, rfl⟩, rfl⟩
  exact ⟨[_], (), _, rfl, ⟨[_], (), [], rfl, ⟨rfl, rfl⟩, rfl⟩, rfl⟩

/-- So the whole command ends with a confirmed transaction. -/
theorem run_confirmed : ∃ t slot,
    CommandLine.run Wire.host Wire.transport .standard settings (.ok key) .init t
      (CommandLine.Report.ofOutcome (.ok (outcome slot))) := by
  obtain ⟨t, slot, hexecute⟩ := execute_confirmed
  have hcreation : Instruction.initBookkeeper program key.address = .ok instruction := encode_eq
  have hrun : Run ((settings.client .standard key).initBookkeeper Wire.host ledger) ([] ++ t)
      (.ok (outcome slot)) := by
    refine run_bind.2 (.inl ⟨[], instruction, t, run_except.2 ⟨rfl, ?_⟩, hexecute, rfl⟩)
    have hcreation' : Instruction.initBookkeeper (settings.client .standard key).program
      (settings.client .standard key).caller = .ok instruction := hcreation
    rw [hcreation']
    rfl
  exact ⟨_, slot, _, _, [], hrun, ⟨rfl, rfl⟩, rfl⟩

end StorageAgent.Sample

namespace StorageAgent.CommandLine

open Behaviour

theorem init_read : (Grammar.whole Sample.settings.rpcUrl Sample.settings.keypairPath).read ["init"] =
    .ok ⟨none, none, none, some .init⟩ :=
  asksInit_eq (by decide +kernel)

theorem init_preparable :
    Invocation.Preparable Sample.homes Sample.settings ⟨none, none, none, some .init⟩ := by
  refine ⟨?_, by decide⟩
  rintro _ ⟨⟩

/-! ## Lines -/

/-- A line that asks for a transaction is planned exactly if it can be prepared. Then it is run, and
whatever the endpoint replies, the run ends with a truthful exit, or with a fault of its own. -/
theorem exit_truthful {homes : Homes} {asJson : Bool} {s : Settings} {words : List String}
    {i : Invocation} {command : Command}
    (hread : (Grammar.whole s.rpcUrl s.keypairPath).read words = .ok i)
    (hcommand : i.command = some command) (hstatus : command ≠ .status) :
    ((∃ p, plan homes asJson s words = .ok p) ↔ i.Preparable homes s) ∧
      ∀ p, plan homes asJson s words = .ok p → ∃ s' log, p = .run command s' log ∧
        ∀ room key t report, run Wire.host Wire.transport room s' key command t report →
          (∃ f, report.exit = .error f ∧ ¬ f.IsClient) ∨
            ∃ exit, report.exit = .ok exit ∧ Truthful s' room t report exit := by
  refine ⟨exists_plan_iff hread hcommand, fun p hp => ?_⟩
  obtain ⟨s', log, -, -, rfl⟩ := (plan_eq_ok_iff hread hcommand).1 hp
  exact ⟨s', log, rfl, fun _ _ _ _ h => run_truthful hstatus h⟩

/-- The bookkeeper's creation is planned, and a run of it in which it is confirmed ends with the
exit for that. -/
theorem exit_truthful_init :
    ∃ i command, (Grammar.whole Sample.settings.rpcUrl Sample.settings.keypairPath).read ["init"] =
        .ok i ∧ i.command = some command ∧ command ≠ .status ∧
      ∃ s' log, plan Sample.homes true Sample.settings ["init"] = .ok (.run command s' log) ∧
        ∃ t report, run Wire.host Wire.transport .standard s' (.ok Sample.key) command t report ∧
          report.exit = .ok .ok ∧ Truthful s' .standard t report .ok := by
  have hstatus : Command.init ≠ .status := by rintro ⟨⟩
  have hplanned : ∃ p, plan Sample.homes true Sample.settings ["init"] = .ok p :=
    (exit_truthful init_read rfl hstatus).1.2 init_preparable
  obtain ⟨p, hp⟩ := hplanned
  obtain ⟨s', log, rfl, htruthful⟩ := (exit_truthful init_read rfl hstatus).2 p hp
  have hsettings : s' = Sample.settings := by
    obtain ⟨s₁, log₁, hs₁, -, hrun⟩ := (plan_eq_ok_iff init_read rfl).1 hp
    cases hrun
    cases hs₁
    rfl
  obtain ⟨t, slot, hrun⟩ := Sample.run_confirmed
  rw [← hsettings] at hrun
  refine ⟨_, .init, init_read, rfl, hstatus, s', log, hp, t, _, hrun, rfl, ?_⟩
  obtain ⟨f, hf, -⟩ | ⟨exit, hexit, htold⟩ := htruthful .standard (.ok Sample.key) t _ hrun
  · cases hf
  · cases hexit
    exact htold

/-- A line that asks for the bookkeeper is read, and cannot be planned: the level of its log is a
reserved word. -/
theorem faulty_reserved_level :
    ∃ i, (Grammar.whole Sample.settings.rpcUrl Sample.settings.keypairPath).read
        ["--log-level", "BASIC_FORMAT", "init"] = .ok i ∧ i.command = some .init ∧
      ∀ asJson, plan Sample.homes asJson Sample.settings ["--log-level", "BASIC_FORMAT", "init"] =
        .error (.of .badValue) := by
  have hread : (Grammar.whole Sample.settings.rpcUrl Sample.settings.keypairPath).read
      ["--log-level", "BASIC_FORMAT", "init"] = .ok ⟨none, none, some "BASIC_FORMAT", some .init⟩ :=
    asksInit_eq (by decide +kernel)
  have hword : Log.reservedWords.lookup (Text.upper "BASIC_FORMAT") = some .badValue := by
    decide
  have hthreshold : Log.thresholdOf "BASIC_FORMAT" = .error (.of .badValue) := by
    unfold Log.thresholdOf
    simp only [hword]
  refine ⟨_, hread, rfl, fun asJson => ?_⟩
  have hsetup : ∀ s', Log.Setup.of (some "BASIC_FORMAT") asJson s' = .error (.of .badValue) := by
    intro s'
    have hgiven : "BASIC_FORMAT".isEmpty = false := by decide
    unfold Log.Setup.of
    simp only [hgiven, hthreshold, Bool.false_eq_true, if_false]
    rfl
  rw [plan_eq hread rfl]
  simp only [hsetup]
  rfl

end StorageAgent.CommandLine
