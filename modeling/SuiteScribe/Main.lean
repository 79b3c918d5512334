import Std.Time.DateTime.Timestamp
import SuiteScribe.Command.Generate

namespace SuiteScribe.Main

open Command Interview Text

/-! The command line. Prompts go to the standard output and notices to the standard error; how many
notices are shown is fixed when the arguments are known. -/

abbrev Shell := ReaderT Nat IO

def faultOf : IO.Error → Fault
  | .noFileOrDirectory _ _ _ => .noSuchFile
  | .alreadyExists _ _ _ => .fileExists
  | error => .other (toString error)

def attempt (action : IO α) : IO (Except Fault α) := do
  try
    return .ok (← action)
  catch error =>
    return .error (faultOf error)

def report (verbosity : Nat) (notice : Notice) : IO Unit := do
  if reported verbosity notice then
    IO.eprintln (notice.level.name ++ " " ++ notice.text)

def display (text : String) : IO (Except Failure Unit) := do
  let output ← IO.getStdout
  let shown ← attempt do
    output.putStr text
    output.flush
  return shown.mapError .terminal

/-! Someone to answer: the operator, line by line, or a transcript. -/

def readLine : IO Bytes := do
  let input ← IO.getStdin
  return encode (← input.getLine)

def askOperator (label : String) : IO (Except Failure String) := do
  match ← display (label ++ ": ") with
  | .error failure => return .error failure
  | .ok () =>
      match ← attempt readLine with
      | .ok line => return (Terminal.answerLine label { input := line }).1
      | .error _ => return .error (.terminal .invalidText)

def askTranscript (verbosity : Nat) (left : IO.Ref (List Event)) (label : String) :
    IO (Except Failure String) := do
  let (answer, after) := Replay.ask label { events := ← left.get }
  left.set after.events
  after.journal.forM (report verbosity)
  match ← display (String.join ((decode? after.outlet.written).toList)) with
  | .error failure => return .error failure
  | .ok () => return answer

/-- Keeps an answer in the transcript. A transcript that cannot be written ends no session. -/
def keep (path : String) (count : IO.Ref Nat) (label answer : String) : IO Unit := do
  let seq := (← count.get) + 1
  count.set seq
  let now ← Std.Time.Timestamp.now
  let event : Event :=
    { seq, prompt := label, answer
      timestampMs := now.toMillisecondsSinceUnixEpoch.val.toNat }
  discard <| attempt do
    let file ← IO.FS.Handle.mk path .append
    file.putStrLn event.line

structure Desk where
  verbosity : Nat
  ask : String → IO (Except Failure String)
  keep : String → String → IO Unit

def Desk.remark (desk : Desk) : List Remark → IO (Except Failure Unit)
  | [] => return .ok ()
  | .note notice :: rest => do
      report desk.verbosity notice
      desk.remark rest
  | .say text :: rest => do
      match ← display (text ++ "\n") with
      | .ok () => desk.remark rest
      | .error failure => return .error failure

partial def Desk.hold (desk : Desk) (guide : Guide τ α) (turn : Turn τ α) :
    IO (Except Failure α) := do
  match ← desk.remark turn.remarks with
  | .error failure => return .error failure
  | .ok () =>
      match turn.next with
      | .finish result => return .ok result
      | .ask question =>
          let label := guide.wording question
          match ← desk.ask label with
          | .error failure => return .error failure
          | .ok answer =>
              desk.keep label answer
              desk.hold guide (guide.answer question answer)

def deskFor (verbosity : Nat) (session : Session) : IO Desk := do
  let count ← IO.mkRef 0
  let left ← IO.mkRef (session.replayed.getD [])
  return {
    verbosity
    ask := if session.replayed.isSome then askTranscript verbosity left else askOperator
    keep := fun label answer =>
      match session.recordTo with
      | none => return ()
      | some path => keep path count label answer }

def interview (options : Options) (session : Session) : Shell (Except Failure Suite) := do
  let desk ← deskFor (← read) session
  desk.hold (SuiteQuestion.guide options) SuiteQuestion.session

def makeParent (path : String) : IO (Except Fault Unit) :=
  match Files.parent? path with
  | none => return .ok ()
  | some directory =>
      if directory.isEmpty then return .ok ()
      else attempt (IO.FS.createDirAll directory)

instance : Host Shell where
  readFile path := attempt do
    return (← IO.FS.readBinFile path).toList
  writeFile path content := attempt (IO.FS.writeBinFile path ⟨content.toArray⟩)
  makeParent path := makeParent path
  print text := do
    discard <| display text
  note notice := do
    report (← read) notice
  now := do
    return (← (Std.Time.Timestamp.now : IO _)).toSecondsSinceUnixEpoch.val
  interview := interview

def usage : String :=
  "Usage: playwright-testgen [OPTIONS] [OUTPUT_DIR]"

def version : String :=
  "playwright-testgen 0.1.0"

def explain : ArgumentFault → String
  | .unknownArgument => "error: unexpected argument found"
  | .missingValue => "error: a value is required but none was supplied"
  | .unneededValue => "error: unexpected value found"
  | .conflict => "error: an argument cannot be used with another"
  | .helpWanted => usage
  | .versionWanted => version

def refuse (fault : ArgumentFault) : IO UInt32 := do
  match fault with
  | .helpWanted | .versionWanted =>
      IO.println (explain fault)
      return 0
  | _ =>
      IO.eprintln (explain fault)
      return 2

def run (arguments : Arguments) : Shell UInt32 := do
  let config ← loadConfig arguments.config
  let settings := Settings.resolve arguments config
  match ← (generate arguments settings : Run Shell String) with
  | .ok _ => return 0
  | .error failure =>
      IO.eprintln ("Error: " ++ failure.message)
      return 1

end SuiteScribe.Main

def main (arguments : List String) : IO UInt32 :=
  match SuiteScribe.Command.Arguments.parse arguments with
  | .error fault => SuiteScribe.Main.refuse fault
  | .ok parsed => (SuiteScribe.Main.run parsed).run parsed.verbosity
