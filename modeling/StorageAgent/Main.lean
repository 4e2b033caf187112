import Std.Time.DateTime.Timestamp
import StorageAgent.CommandLine.Run
import StorageAgent.Log.Setup

/-!
# The program

The command line on a real machine. Settings come from the environment and from
the file `.env`. Log lines and complaints go to standard error.

Requests leave through a relay, a process that speaks HTTP: the variable
`BITOKU_RELAY` names a directory with two pipes. A line in `request` is a JSON
object with the members `url` and `body`. The line that answers it in `reply`
has the members `status` and `body`, or `kind` and `message` if the connection
failed. Without a relay no connection can be made.
-/
namespace StorageAgent.Program

def nanos : Float := 1000000000.0

def environment : IO (List (String × String)) := do
  let text ← try IO.FS.readFile "/proc/self/environ" catch _ => pure ""
  return (text.splitOn "\x00").filterMap fun entry =>
    match entry.splitOn "=" with
    | name :: value => if name.isEmpty then none else some (name, "=".intercalate value)
    | [] => none

/-- The text of a file, empty if it cannot be read. -/
def textOrEmpty (path : String) : IO String :=
  try IO.FS.readFile path catch _ => pure ""

def entryAt (path : Path) : IO FileEntry := do
  try
    let bytes ← IO.FS.readBinFile path.text
    return .content bytes.toList
  catch
    | .noFileOrDirectory .. => return .missing
    | _ =>
      try
        let found ← IO.FS.realPath path.text
        return .unreadable (if ← found.isDir then .isDirectory else .notDirectory)
      catch _ => return .unreadable .notDirectory

def microseconds : IO Int := do
  let now ← Std.Time.Timestamp.now
  return now.toNanosecondsSinceUnixEpoch.val.fdiv 1000

/-- The machine, with a cell for the operation that is being executed. -/
def machine (log : Log.Setup) (context : IO.Ref (Option Log.Context)) : Host IO Float where
  now := do
    let n ← IO.monoNanosNow
    return n.toFloat / nanos
  sleep seconds := IO.sleep (seconds * 1000.0).toUInt32
  draw := do
    let n ← IO.rand 0 (Decimal.twoPow 53 - 1)
    return n.toFloat / (Decimal.twoPow 53).toFloat
  log line := do
    let event := line.event (← context.get)
    if let some text := log.line? (Log.stamp (← microseconds)) event then IO.eprintln text
  setContext c := context.set c
  acquire := pure ()
  release := pure ()
  exhausted := pure (.of .outOfRounds)

/-- The reply that a line of the relay tells. -/
def replyOf (line : String) : Reply :=
  match Json.parse Capacity.standard.nesting line with
  | .ok (.object members) =>
    match Json.memberOr members "status", Json.memberOr members "kind" with
    | .int status, _ =>
      .response status (Text.Utf8.encode (Json.memberOr members "body").display)
    | _, kind => .unreachable kind.display (Json.memberOr members "message").display
  | _ => .unreachable "RemoteProtocolError" "the relay gave no answer"

/-- The way to an endpoint through a relay, with a counter for requests. -/
def wayThrough (relay : Option String) (url : String) (count : IO.Ref Nat) : Transport IO where
  nextId := do
    count.modify (· + 1)
    count.get
  post request := do
    match relay with
    | none => return .unreachable "ConnectError" "no relay"
    | some directory =>
      let line := Json.write Json.Layout.line (.object [("url", .text url), ("body", request.body)])
      try
        IO.FS.writeFile (directory ++ "/request") (line ++ "\n")
        let answer ← IO.FS.readFile (directory ++ "/reply")
        return replyOf answer
      catch e => return .unreachable "ConnectError" (toString e)

def faultLines : Settings.LoadFault → List String
  | .invalid faults => faults.map fun f => f.field ++ ": " ++ f.cause.message
  | .noHome failure => [failure.message]

/-- What is said about a failure that is no error of the client. -/
def faultText : Failure → String
  | .client e => e.message
  | .fault kind message => reprStr kind ++ " " ++ message

def carryOut (homes : Homes) (relay : Option String) (command : CommandLine.Command)
    (settings : Settings) (log : Log.Setup) : IO UInt32 := do
  let context ← IO.mkRef none
  let count ← IO.mkRef 0
  let path := (settings.keypairPath.expand homes).toOption.getD settings.keypairPath
  let entry ← entryAt path
  let key := Key.ofFile Capacity.standard.nesting homes (fun _ => entry) settings.keypairPath
  let report ← CommandLine.run (machine log context) (wayThrough relay settings.rpcUrl count)
    Capacity.standard settings key command
  report.lines.forM fun line => IO.println line
  match report.exit with
  | .ok exit => return exit.code.toUInt32
  | .error failure => do
    IO.eprintln (faultText failure)
    return 1

end StorageAgent.Program

open StorageAgent

def main (words : List String) : IO UInt32 := do
  let env ← Program.environment
  let homes := Homes.ofTable ((env.lookup "HOME").getD "/") (← Program.textOrEmpty "/etc/passwd")
  let file := Dotenv.parse env (← Program.textOrEmpty ".env")
  match Settings.load homes ⟨[], env, file⟩ with
  | .error fault => do
    (Program.faultLines fault).forM fun line => IO.eprintln line
    return 1
  | .ok settings =>
    let terminal ← (← IO.getStderr).isTty
    match CommandLine.plan homes (!terminal) settings words with
    | .error failure => do
      IO.eprintln (Program.faultText failure)
      return 1
    | .ok (.tell lines) => do
      lines.forM fun line => IO.println line
      return CommandLine.Exit.ok.code.toUInt32
    | .ok (.refuse lines) => do
      lines.forM fun line => IO.eprintln line
      return CommandLine.Exit.refused.code.toUInt32
    | .ok (.run command settings log) =>
      Program.carryOut homes (env.lookup "BITOKU_RELAY") command settings log
