import StorageAgent.Account
import StorageAgent.CommandLine.Usage
import StorageAgent.Log.Setup
import StorageAgent.Submission

/-!
# Running a command line

A line is planned before anything is done: it is answered with help, refused, or
run with the settings that it changes. A run ends with an exit that says how the
operation ended; an error of the client is told and counts as a failure.
-/
namespace StorageAgent.CommandLine

/-! ## Reports

What is printed about an outcome and about the program's accounts, and the exit code that says
the same: 0 for success, 1 for failure, 2 if the outcome is not known or nothing was tried. -/

/-- The ways in which the command line ends. -/
inductive Exit where
  | ok
  | failed
  | unknown
  /-- The line could not be read. -/
  | refused
  deriving DecidableEq, Repr

def Exit.code : Exit → Nat
  | ok => 0
  | failed => 1
  | unknown => 2
  | refused => 2

def Exit.ofVerdict : Verdict → Exit
  | .confirmed => ok
  | .failed => failed
  | .unknown => unknown

def outcomeLines (o : Outcome) : List String :=
  match o.verdict with
  | .confirmed =>
    ("✅ Transaction confirmed: " ++ o.signature.display) ::
      (if o.slot.isNull then [] else ["   Slot: " ++ o.slot.display])
  | .failed =>
    let programError :=
      match o.rejection.bind (·.programError) with
      | some e => ["   Program error: " ++ e.name]
      | none => []
    ("❌ Transaction failed: " ++ o.signature.display) ::
      ("   Reason: " ++ o.errorText.getD "None") :: programError
  | .unknown =>
    ["⏳ Outcome unknown, transaction may still land: " ++ o.signature.display]

def errorLine (e : ClientError) : String := "❌ Error: " ++ e.message

def bookkeeperLines : Option Bookkeeper → List String
  | none => ["", "Bookkeeper account not initialized"]
  | some b =>
    let ids := b.registered
    let shown := if ids.isEmpty then "none" else "[" ++ ", ".intercalate (ids.map toString) ++ "]"
    ["", "Registered client ids: " ++ shown, s!"Next client id: {b.nextId.toNat}"]

def requestLine : Option RequestRecord → String
  | none => "Caller is not registered"
  | some r =>
    let kind :=
      match r.requestType with
      | some t => t.name
      | none => "unknown"
    s!"Last request: {kind} name={Text.quote r.nameText} file_id={r.fileId.toNat}"

/-! ## Plans -/

/-- What is to be done about a line. -/
inductive Plan where
  /-- Lines for standard output. -/
  | tell (lines : List String)
  /-- Lines for standard error. -/
  | refuse (lines : List String)
  | run (command : Command) (settings : Settings) (log : Log.Setup)

/-- A text, unless it is missing or empty. -/
def given? (text : Option String) : Option String := text.filter fun t => !t.isEmpty

/-- The settings with what an invocation changes. -/
def Invocation.override (i : Invocation) (homes : Homes) (s : Settings) : Except Failure Settings := do
  let rpcUrl := (given? i.rpcUrl).getD s.rpcUrl
  match given? i.keypair with
  | none => return { s with rpcUrl }
  | some text =>
    let path ← (Path.parse text).expand homes
    return { s with rpcUrl, keypairPath := path }

/-- The plan for a line, whose log is in JSON or in columns. -/
def plan (homes : Homes) (asJson : Bool) (s : Settings) (words : List String) :
    Except Failure Plan := do
  let g := Grammar.whole s.rpcUrl s.keypairPath
  match g.read words with
  | .error (.help g) => return .tell (← g.help)
  | .error (.complaint g c) => return .refuse (g.complaintLines c)
  | .ok i =>
    match i.command with
    -- settings that a line changes are checked only if it has a command
    | none => return .tell (← g.help)
    | some command =>
      let s ← i.override homes s
      let log ← Log.Setup.of i.logLevel asJson s
      return .run command s log

/-! ## Runs -/

/-- What was said on standard output, and how it ended. -/
structure Report where
  lines : List String
  exit : Except Failure Exit

/-- The report of a failure after some lines. Only errors of the client are told. -/
def Report.failed (said : List String) : Failure → Report
  | .client e => ⟨said ++ [errorLine e], .ok .failed⟩
  | failure => ⟨said, .error failure⟩

def Report.ofOutcome : Except Failure Outcome → Report
  | .ok o => ⟨outcomeLines o, .ok (Exit.ofVerdict o.verdict)⟩
  | .error failure => Report.failed [] failure

variable {m : Type → Type} [Monad m] {τ : Type} [Seconds τ]

def tellAll : List String → List (ExceptT Failure m (List String)) → m Report
  | said, [] => return ⟨said, .ok .ok⟩
  | said, step :: rest => do
    match ← step.run with
    | .ok lines => tellAll (said ++ lines) rest
    | .error failure => return Report.failed said failure

/-- Tells the accounts of a client and what they hold. -/
def tellStatus (ledger : Ledger m) (c : Client τ) : m Report :=
  tellAll ["Caller:     " ++ c.caller.text, "Program:    " ++ c.program.text] [
    (do
      let derived ← c.bookkeeperAddress
      return ["Bookkeeper: " ++ derived.address.text]),
    (do
      let derived ← c.requestAddress
      return ["Request:    " ++ derived.address.text]),
    (do
      let bookkeeper ← c.fetchBookkeeper ledger
      return bookkeeperLines bookkeeper),
    (do
      let record ← c.fetchRequest ledger
      return [requestLine record])]

def perform (host : Host m τ) (ledger : Ledger m) (c : Client τ) : Command → m Report
  | .init => return Report.ofOutcome (← (c.initBookkeeper host ledger).run)
  | .register => return Report.ofOutcome (← (c.registerClient host ledger).run)
  | .remove clientId =>
    return Report.ofOutcome (← (c.removeClient host ledger clientId).run)
  | .send draft => return Report.ofOutcome (← (c.sendRequest host ledger draft).run)
  | .status => tellStatus ledger c

/-- Carries out a command with the key that could be read. -/
def run (host : Host m Float) (transport : Transport m) (room : Capacity) (s : Settings)
    (key : Except Failure Key) (command : Command) : m Report :=
  match key with
  -- without a key nothing is asked, so not even the addresses are told
  | .error failure => return Report.failed [] failure
  | .ok key =>
    perform host (Session.ledger host transport (s.session room)) (s.client room key) command

end StorageAgent.CommandLine
