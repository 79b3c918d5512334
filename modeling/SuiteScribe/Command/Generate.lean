import SuiteScribe.Answers.Transcript
import SuiteScribe.Command.Arguments

namespace SuiteScribe.Command

open Interview Script Text

/-! What the command needs around it: files, a clock, an output, and someone to answer. -/

/-- Where the answers of an interview come from, and whether they are recorded. -/
structure Session where
  replayed : Option (List Event) := none
  recordTo : Option String := none

class Host (m : Type → Type) where
  readFile : String → m (Except Fault Text.Bytes)
  writeFile : String → Text.Bytes → m (Except Fault Unit)
  makeParent : String → m (Except Fault Unit)
  print : String → m Unit
  note : Notice → m Unit
  now : m Int
  interview : Options → Session → m (Except Failure Suite)

abbrev Run (m : Type → Type) := ExceptT Failure m

namespace Run

variable {m : Type → Type} [Monad m] [Host m]

/-- An operation on files whose fault ends the run. -/
def orFail (failure : Fault → Failure) (operation : m (Except Fault α)) : Run m α := do
  match ← (operation : m (Except Fault α)) with
  | .ok value => return value
  | .error fault => throw (failure fault)

def note (level : Level) (text : String) : Run m Unit :=
  (Host.note ⟨level, text⟩ : m Unit)

end Run

/-! What is printed after the file is written. -/

def plural (count : Nat) (one many : String) : String :=
  if count = 1 then one else many

def summary (suite : Suite) (path : String) : String :=
  let cases := suite.testCases.length
  let steps := suite.stepCount
  "\n=== Generated: " ++ path ++ " ===\n\n" ++
  suite.describeTitle ++ " (" ++ suite.category.label ++ "): " ++
  toString cases ++ " test " ++ plural cases "case" "cases" ++ ", " ++
  toString steps ++ " " ++ plural steps "step" "steps" ++ "\n" ++
  (if suite.testCases.isEmpty then
    "  (no test cases collected, the describe block is empty)\n" else "") ++
  "\nNext steps:\n" ++
  "  Run tests:    npx playwright test " ++ path ++ "\n" ++
  "  Debug:        npx playwright test " ++ path ++ " --debug\n" ++
  "  View report:  npx playwright show-report\n"

/-! One run of the command: a suite is loaded or collected, saved if wanted, and written as a test
file. The first failure ends the run, and what was written before it stays. -/

section

variable {m : Type → Type} [Monad m] [Host m]

/-! Suite files. -/

def suiteOfBytes (path : String) (bytes : Bytes) : Except Failure Suite :=
  match decode? bytes with
  | none => .error (.suiteFile path .invalidText)
  | some source =>
      match SuiteFile.readSuite source with
      | .error detail => .error (.suiteText path detail)
      | .ok suite =>
          match suite.defect? with
          | some defect => .error (.invalidSuite defect)
          | none => .ok suite

def loadSuite (path : String) : Run m Suite := do
  let bytes ← Run.orFail (.suiteFile path) (Host.readFile path)
  let suite ← (suiteOfBytes path bytes : Except Failure Suite)
  Run.note .debug "loaded suite file"
  return suite

def saveSuite (suite : Suite) (path : String) : Run m Unit := do
  Run.orFail (.suiteFile path) (Host.makeParent path)
  Run.orFail (.suiteFile path) (Host.writeFile path (encode (SuiteFile.render suite)))

/-! Test files. -/

def writeSuite (suite : Suite) (placement : Placement) (generatedAt : Int) : Run m String := do
  let path := placement.pathFor suite.fileBaseName
  Run.orFail (.write path) (Host.makeParent path)
  Run.orFail (.write path) (Host.writeFile path (encode (assemble suite generatedAt)))
  Run.note .info "wrote suite file"
  return path

/-! Transcripts. A transcript file that cannot be opened leaves the session unrecorded. -/

def loadTranscript (path : String) : Run m (List Event) := do
  let bytes ← Run.orFail (.transcript path) (Host.readFile path)
  (Transcript.load path bytes : Except Failure (List Event))

def openTranscript (path : String) : m Bool := do
  match ← (Host.writeFile path [] : m (Except Fault Unit)) with
  | .ok () => return true
  | .error _ =>
      (Host.note ⟨.warn, "could not open transcript file"⟩ : m Unit)
      return false

def prepareReplay (replay : Option String) : Run m (Option (List Event)) := do
  match replay with
  | none => return none
  | some path =>
      let events ← loadTranscript path
      Run.note .info "replaying transcript"
      return some events

def prepareRecord (record : Option String) : Run m (Option String) := do
  match record with
  | none => return none
  | some path =>
      if ← (openTranscript path : m Bool) then
        Run.note .info "recording transcript"
        return some path
      else return none

def prepare (replay record : Option String) : Run m Session := do
  let replayed ← prepareReplay replay
  return { replayed, recordTo := ← prepareRecord record }

/-! The whole run. -/

def obtainSuite (arguments : Arguments) (options : Options) : Run m Suite := do
  match arguments.suite with
  | some path => loadSuite path
  | none =>
      let session ← prepare arguments.replay arguments.record
      (Host.interview options session : m (Except Failure Suite))

def saveIfWanted (arguments : Arguments) (suite : Suite) : Run m Unit := do
  match arguments.saveSuite with
  | none => return ()
  | some path =>
      saveSuite suite path
      Run.note .info "saved suite file"

/-- The path of the file that was written. -/
def generate (arguments : Arguments) (settings : Settings) : Run m String := do
  let suite ← obtainSuite arguments settings.options
  saveIfWanted arguments suite
  let path ← writeSuite suite settings.placement (← (Host.now : m Int))
  (Host.print (summary suite path) : m Unit)
  return path

/-- The configuration counts as empty where its file cannot be read, and with a warning where its
text is malformed. -/
def loadConfig (path : Option String) : m Config := do
  match ← (Host.readFile (path.getD Config.defaultPath) : m (Except Fault Bytes)) with
  | .error _ => return {}
  | .ok bytes =>
      match decode? bytes with
      | none => return {}
      | some source =>
          match Config.ofText? source with
          | some config => return config
          | none =>
              (Host.note ⟨.warn, "ignoring malformed config file"⟩ : m Unit)
              return {}

end

/-! One session over a source of answers. -/

/-- The suite that a session collects, or what ended it early, and the source after it. -/
def collectSuite [Answers σ] (options : Options) (source : σ) : Except Failure Suite × σ :=
  Answers.converse (SuiteQuestion.guide options) SuiteQuestion.session source

/-- Collects a suite and writes it under a given time. -/
def runSession {m : Type → Type} [Monad m] [Host m] [Answers σ] (settings : Settings)
    (generatedAt : Int) (source : σ) : Run m (Suite × String) := do
  let suite ← (collectSuite settings.options source).1
  let path ← writeSuite suite settings.placement generatedAt
  return (suite, path)

end SuiteScribe.Command
