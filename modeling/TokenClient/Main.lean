import TokenClient.Command.Run
import TokenClient.CommandLine.Grammar

/-! The program. It carries no requests itself: each one goes to standard error as a line that
names the node and holds the message, and the node's answer is read as a line from standard input.
A run is repeated with every answer that has come in until it asks for nothing new; as it is a
function of the answers, each repetition begins with the same requests. -/
namespace TokenClient.Main

def requestLine (number : Nat) (call : Call) : String :=
  let params := call.request.params?.toList.map fun values => ("params", Json.array values)
  let message := Json.object
    ([("jsonrpc", .string "2.0"), ("id", .number (Decimal.text number)),
      ("method", .string call.request.method)] ++ params)
  (Json.object [("url", .string call.url), ("message", message)]).compact

def exchange (number : Nat) (call : Call) : IO Delivery := do
  let start ← IO.monoMsNow
  (← IO.getStderr).putStrLn (requestLine number call)
  let line ← (← IO.getStdin).getLine
  let delay := (← IO.monoMsNow) - start
  if line.isEmpty then return ⟨.dropped "the input has ended", delay⟩
  return ⟨.http 200 line, delay⟩

/-- The places that a path passes, the one it leads to last. -/
def passed (here : Place) : List String → List Place
  | [] => [here]
  | part :: rest =>
    if part = "" ∨ part = "." then passed here rest
    else if part = ".." then passed here.dropLast rest
    else here :: passed (here ++ [part]) rest

/-- What stands at a path, as far as a command can see it. -/
def look (path : String) : IO Storage := do
  let places := passed [] (Storage.parts path)
  let target := places.getLastD []
  try
    let content ← IO.FS.readBinFile path
    return ⟨[(target, content.toList)], places.dropLast⟩
  catch failure =>
    match failure with
    | .noFileOrDirectory .. => return .empty
    | _ => return ⟨[], places⟩

def keep (path : String) (before after : Storage) : IO Unit := do
  if after ≠ before then
    match after.read path with
    | .ok text =>
      let directory := String.intercalate "/" (Storage.parts path).dropLast
      if directory ≠ "" then IO.FS.createDirAll directory
      IO.FS.writeFile path text
    | .error _ => return ()

/-- Repeats the run until all that it asks for has been answered. The clock of the last run tells
when its first unanswered request is due. -/
partial def converse (run : Node → Except Failure Unit × Desk) (answers : List Delivery) :
    IO (Except Failure Unit × Desk) := do
  let start ← IO.monoMsNow
  let rec go (answers : List Delivery) : IO (Except Failure Unit × Desk) := do
    let (outcome, desk) := run (Node.scripted answers)
    match desk.wire.calls[answers.length]? with
    | none => return (outcome, desk)
    | some call =>
      let early := desk.wire.clock - ((← IO.monoMsNow) - start)
      IO.sleep (UInt32.ofNat (min early (2 ^ 32 - 1)))
      go (answers ++ [← exchange answers.length call])
  go answers

def faultText : UsageFault → String
  | .missingArgument => "an argument is missing"
  | .missingSubcommand | .nothingGiven => "a command is missing"
  | .unknownArgument => "unexpected argument"
  | .unknownSubcommand => "unknown command"
  | .noValue => "an option has no value"
  | .badValue => "a value is not a number"
  | .repeated => "an option is given twice"
  | .unwantedValue => "a flag has a value"
  | .help => "commands: deploy, query-transfer, info, balance, allowance, approve, transfer-from, " ++
    "events, tx status, config init, config show"
  | .version => "0.1.0"

end TokenClient.Main

open TokenClient in
def main (args : List String) : IO UInt32 := do
  match CommandLine.parse args with
  | .error fault =>
    let stream ← if fault.exitCode = 0 then IO.getStdout else IO.getStderr
    stream.putStrLn (Main.faultText fault)
    return UInt32.ofNat fault.exitCode
  | .ok invocation =>
    let home := (← IO.getEnv "HOME").getD "."
    let path := invocation.settingsPath home
    let files ← Main.look path
    let (outcome, desk) ← Main.converse (invocation.run home · ⟨.idle, files, []⟩) []
    Main.keep path files desk.files
    (← IO.getStdout).putStr desk.output
    match outcome with
    | .ok () => return 0
    | .error failure =>
      (← IO.getStderr).putStrLn ("Error: " ++ failure.message)
      return 1
