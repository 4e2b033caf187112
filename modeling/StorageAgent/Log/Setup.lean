import StorageAgent.Json.Writer
import StorageAgent.Log.Line
import StorageAgent.Settings.Load

/-!
# Log setups

A setup says which events are shown and how. Every line names the endpoint and
the program that the client talks to. The HTTP library is heard from warnings
on, everybody else from a threshold on.

Lines are JSON objects, or columns for people to read.
-/
namespace StorageAgent.Log

/-! ## Time stamps

A moment as text, in UTC: `2024-02-29T12:00:00.000001Z`. The days since 1970 are turned into a
date by counting from the first of March, so that the day that leap years add is the last of its
year. -/

structure Date where
  year : Int
  month : Nat
  day : Nat
  deriving DecidableEq, Repr

def eraDays : Int := 146097

/-- The date that comes `days` days after the first of January 1970. -/
def Date.ofDays (days : Int) : Date :=
  let shifted := days + 719468
  let era := shifted.fdiv eraDays
  let dayOfEra := (shifted.fmod eraDays).toNat
  let yearOfEra := (dayOfEra - dayOfEra / 1460 + dayOfEra / 36524 - dayOfEra / 146096) / 365
  let dayOfYear := dayOfEra - (365 * yearOfEra + yearOfEra / 4 - yearOfEra / 100)
  let shiftedMonth := (5 * dayOfYear + 2) / 153
  let month := if shiftedMonth < 10 then shiftedMonth + 3 else shiftedMonth - 9
  { year := (yearOfEra : Int) + 400 * era + (if month ≤ 2 then 1 else 0)
    month
    day := dayOfYear - (153 * shiftedMonth + 2) / 5 + 1 }

def padded (width n : Nat) : String :=
  let digits := Nat.toDigits 10 n
  String.ofList (List.replicate (width - digits.length) '0' ++ digits)

/-- The moment that comes `micros` microseconds after the beginning of 1970. The fraction of a second
is left out if it is zero. -/
def stamp (micros : Int) : String :=
  let seconds := micros.fdiv 1000000
  let fraction := (micros.fmod 1000000).toNat
  let date := Date.ofDays (seconds.fdiv 86400)
  let second := (seconds.fmod 86400).toNat
  let clock := padded 2 (second / 3600) ++ ":" ++ padded 2 (second / 60 % 60) ++ ":" ++ padded 2 (second % 60)
  padded 4 date.year.toNat ++ "-" ++ padded 2 date.month ++ "-" ++ padded 2 date.day ++ "T" ++ clock ++
    (if fraction = 0 then "" else "." ++ padded 6 fraction) ++ "Z"

/-! ## Thresholds -/

def thresholds : List (String × Nat) :=
  [("NOTSET", 0), ("DEBUG", 10), ("INFO", 20), ("WARN", 30), ("WARNING", 30), ("ERROR", 40),
    ("FATAL", 50), ("CRITICAL", 50)]

/-- Words that are reserved for other things than thresholds. -/
def reservedWords : List (String × FaultKind) :=
  [("BASIC_FORMAT", .badValue), ("_STYLES", .wrongKind)]

/-- The threshold of a name in any case. Other names stand for INFO. -/
def thresholdOf (name : String) : Except Failure Nat :=
  let name := Text.upper name
  -- any attribute of the log under that name is taken, whether it is a threshold or not
  match reservedWords.lookup name with
  | some kind => .error (Failure.of kind)
  | none => .ok ((thresholds.lookup name).getD Level.info.number)

/-- The parts of the HTTP library. -/
def quietSources : List String := ["httpx", "httpcore"]

/-! ## Setups -/

/-- What is shown and how. -/
structure Setup where
  threshold : Nat
  asJson : Bool
  /-- Members of every line. -/
  bound : List (String × Json)

/-- The setup that settings ask for. A level that is given, unless it is empty, takes the place of
theirs. -/
def Setup.of (level : Option String) (asJson : Bool) (s : Settings) : Except Failure Setup := do
  let name :=
    match level with
    | some name => if name.isEmpty then s.logLevel else name
    | none => s.logLevel
  let threshold ← thresholdOf name
  return ⟨threshold, asJson, [("rpc_url", .text s.rpcUrl), ("program_id", .text s.program.text)]⟩

/-- The least number of a level that is shown of a source. What lies under a source follows it. -/
def Setup.limit (s : Setup) (source : String) : Nat :=
  if quietSources.any fun q => source == q || source.startsWith (q ++ ".") then Level.warning.number
  else s.threshold

def Setup.shows (s : Setup) (e : Event) : Bool := decide (s.limit e.source ≤ e.level.number)

def sourceName (source : String) : String := if source.isEmpty then "root" else source

/-- `members` with those of `more` that it does not have. -/
def withMissing (members : List (String × Json)) : List (String × Json) → List (String × Json)
  | [] => members
  | (name, value) :: more =>
    match Json.member? members name with
    | some _ => withMissing members more
    | none => withMissing (members ++ [(name, value)]) more

/-- Members that the log keeps for itself: where an event came from, and whether a fault or a trace
goes with it. They are no members of a line. -/
def ownNames : List String := ["_record", "_from_structlog", "exc_info", "stack_info"]

/-- The members of a line: the words, what they are about, what is bound, and who speaks. -/
def Setup.members (s : Setup) (e : Event) : List (String × Json) :=
  let context := e.context.filter fun m => !ownNames.contains m.1
  let about := withMissing (withMissing [("event", .text e.message)] context) s.bound
  Json.setMember "logger" (.text (sourceName e.source))
    (Json.setMember "level" (.text e.level.name) about)

/-! ## Lines -/

def Setup.jsonLine (s : Setup) (stamp : String) (e : Event) : String :=
  Json.write Json.Layout.line (.object (Json.setMember "timestamp" (.text stamp) (s.members e)))

def column (width : Nat) (text : String) : String :=
  text ++ String.ofList (List.replicate (width - text.length) ' ')

/-- Characters for whose sake a text is quoted. -/
def quoted : List Char := [' ', '\t', '=', '\r', '\n', '"', '\'']

def cell : Json → String
  | .text t => if t.toList.any quoted.contains then Text.quote t else t
  | j => j.literal

/-- The members that have places of their own in a line. -/
def placedNames : List String :=
  ["timestamp", "level", "event", "logger", "logger_name", "stack", "exception"]

/-- Between a trace and a fault. -/
def ruler : String := "\n\n" ++ String.ofList (List.replicate 79 '=') ++ "\n"

/-- What follows a line: a trace, and the text of a fault. -/
def Setup.trailer (e : Event) : String :=
  let shown := fun name =>
    match (Json.member? e.context name).getD .null with
    | .null => none
    | j => some j.display
  let faulty := (shown "exception").isSome || ((Json.member? e.context "exc_info").getD .null).isTruthy
  let trace :=
    match shown "stack" with
    | some text => "\n" ++ text ++ (if faulty then ruler else "")
    | none => ""
  match shown "exception" with
  | some text => trace ++ "\n" ++ text
  | none => trace

/-- A line in columns: time, level, words, source, and the other members by name. -/
def Setup.columnLine (s : Setup) (stamp : String) (e : Event) : String :=
  let members := s.members e
  let others := members.filter fun m => !placedNames.contains m.1
  let sorted := others.mergeSort fun a b => decide (a.1 ≤ b.1)
  let cells := sorted.map fun (name, value) => name ++ "=" ++ cell value
  let sources :=
    match Json.member? members "logger_name" with
    | some name => [sourceName e.source, name.display]
    | none => [sourceName e.source]
  let line := " ".intercalate ([stamp, "[" ++ column 9 e.level.name ++ "]", column 30 e.message] ++
    sources.map (fun source => "[" ++ source ++ "]") ++ cells)
  String.ofList (line.toList.reverse.dropWhile (· == ' ')).reverse ++ trailer e

def Setup.line? (s : Setup) (stamp : String) (e : Event) : Option String :=
  if s.shows e then some (if s.asJson then s.jsonLine stamp e else s.columnLine stamp e) else none

end StorageAgent.Log
