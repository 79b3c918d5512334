import SuiteScribe.Interview
import SuiteScribe.Script
import SuiteScribe.SuiteFile

namespace SuiteScribe.Command

/-! The arguments of the command: one output directory, options with a value, and switches. -/

structure Arguments where
  outputDirectory : Option String := none
  verbosity : Nat := 0
  config : Option String := none
  suite : Option String := none
  saveSuite : Option String := none
  record : Option String := none
  replay : Option String := none
  extension : Option String := none
  strictMenus : Bool := false
  deriving DecidableEq, Repr

inductive ArgumentFault
  | unknownArgument
  | missingValue
  | unneededValue
  | conflict
  | helpWanted
  | versionWanted
  deriving DecidableEq, Repr

inductive ValueOption
  | config
  | suite
  | saveSuite
  | record
  | replay
  | extension
  deriving DecidableEq, Repr

inductive Switch
  | verbose
  | strictMenus
  | help
  | version
  deriving DecidableEq, Repr

def ValueOption.ofName? (name : String) : Option ValueOption :=
  [("config", .config), ("suite", .suite), ("save-suite", .saveSuite), ("record", .record),
   ("replay", .replay), ("extension", .extension)].lookup name

def Switch.ofName? (name : String) : Option Switch :=
  [("verbose", .verbose), ("strict-menus", .strictMenus), ("help", .help),
   ("version", .version)].lookup name

def Switch.ofLetter? (letter : Char) : Option Switch :=
  [('v', .verbose), ('h', .help), ('V', .version)].lookup letter

namespace Arguments

def get? (arguments : Arguments) : ValueOption → Option String
  | .config => arguments.config
  | .suite => arguments.suite
  | .saveSuite => arguments.saveSuite
  | .record => arguments.record
  | .replay => arguments.replay
  | .extension => arguments.extension

def set (arguments : Arguments) (value : String) : ValueOption → Arguments
  | .config => { arguments with config := some value }
  | .suite => { arguments with suite := some value }
  | .saveSuite => { arguments with saveSuite := some value }
  | .record => { arguments with record := some value }
  | .replay => { arguments with replay := some value }
  | .extension => { arguments with extension := some value }

/-! An option takes effect when the next argument after its value is understood, so that an
argument that is not understood is reported before a fault of the option in front of it. -/

structure Pending where
  option : ValueOption
  value : Option String := none

structure Parsing where
  arguments : Arguments := {}
  pending : Option Pending := none

abbrev Parsed := Except ArgumentFault Parsing

namespace Parsing

def store (parsing : Parsing) (option : ValueOption) (value : String) : Parsed :=
  if (parsing.arguments.get? option).isSome then .error .conflict
  else .ok { arguments := parsing.arguments.set value option }

def settle (parsing : Parsing) : Parsed :=
  match parsing.pending with
  | none => .ok parsing
  | some { option, value := some value } => parsing.store option value
  | some { option := _, value := none } => .error .missingValue

def verbosityLimit : Nat := 255

def flip (parsing : Parsing) (switch : Switch) : Parsed := do
  let parsing ← parsing.settle
  let arguments := parsing.arguments
  match switch with
  | .verbose =>
      return { parsing with
        arguments :=
          { arguments with verbosity := min verbosityLimit (arguments.verbosity + 1) } }
  | .strictMenus =>
      if arguments.strictMenus then throw .conflict
      else return { parsing with arguments := { arguments with strictMenus := true } }
  | .help => throw .helpWanted
  | .version => throw .versionWanted

/-- A long argument by its name, with the value behind an equals sign. -/
def long (parsing : Parsing) (name : String) (value : Option String) : Parsed :=
  match ValueOption.ofName? name, Switch.ofName? name with
  | some option, _ => do
      let parsing ← parsing.settle
      match value with
      | some value => parsing.store option value
      | none => return { parsing with pending := some { option } }
  | none, some switch =>
      if value.isSome then .error .unneededValue else parsing.flip switch
  | none, none => .error .unknownArgument

def letters (parsing : Parsing) : List Char → Parsed
  | [] => .ok parsing
  | letter :: rest =>
      match Switch.ofLetter? letter with
      | none => .error .unknownArgument
      | some switch =>
          match parsing.flip switch with
          | .ok next => next.letters rest
          | .error fault => .error fault

/-- There is one positional argument. -/
def positional (parsing : Parsing) (value : String) : Parsed :=
  if parsing.arguments.outputDirectory.isSome then .error .unknownArgument
  else do
    let parsing ← parsing.settle
    return { parsing with
      arguments := { parsing.arguments with outputDirectory := some value } }

def splitValue (text : List Char) : String × Option String :=
  let name := text.takeWhile (· != '=')
  match text.dropWhile (· != '=') with
  | [] => (String.ofList name, none)
  | _ :: value => (String.ofList name, some (String.ofList value))

/-- An option that waits for its value takes any argument that is no option itself. -/
def plain (parsing : Parsing) (value : String) : Parsed :=
  match parsing.pending with
  | some { option, value := none } =>
      .ok { parsing with pending := some { option, value := some value } }
  | _ => parsing.positional value

def argument (parsing : Parsing) (text : String) : Parsed :=
  match text.toList with
  | '-' :: '-' :: rest =>
      let (name, value) := splitValue rest
      parsing.long name value
  | '-' :: letter :: rest => parsing.letters (letter :: rest)
  | _ => parsing.plain text

def rest (parsing : Parsing) : List String → Parsed
  | [] => .ok parsing
  | value :: more =>
      match parsing.positional value with
      | .ok next => next.rest more
      | .error fault => .error fault

/-- Behind a double hyphen all arguments are positional. -/
def all (parsing : Parsing) : List String → Parsed
  | [] => .ok parsing
  | text :: more =>
      if text == "--" then parsing.rest more
      else
        match parsing.argument text with
        | .ok next => next.all more
        | .error fault => .error fault

end Parsing

/-- A suite file leaves nothing to replay or to record. -/
def conflicts (arguments : Arguments) : Bool :=
  arguments.suite.isSome && (arguments.replay.isSome || arguments.record.isSome)

def parse (texts : List String) : Except ArgumentFault Arguments := do
  let parsing ← ({} : Parsing).all texts
  let parsing ← parsing.settle
  if parsing.arguments.conflicts then throw .conflict else return parsing.arguments

end Arguments

open Interview Script SuiteFile Yaml

/-! The configuration file, and the settings that follow from it and from the arguments. -/

structure Config where
  output : Placement := {}
  strictMenus : Bool := false
  deriving DecidableEq, Repr

namespace Config

def defaultPath : String := "playwright-testgen.yaml"

structure OutputFields where
  directory : Option String := none
  extension : Option String := none

def OutputFields.read (fields : OutputFields) (name : String) (trail : Trail) (node : Node) :
    Reading OutputFields := do
  if name == "directory" then
    return { fields with
      directory := ← Reading.once trail fields.directory (Reading.rawText trail node) }
  else if name == "extension" then
    return { fields with
      extension := ← Reading.once trail fields.extension (Reading.rawText trail node) }
  else return fields

def readOutput (trail : Trail) (node : Node) : Reading Placement := do
  let fields ← Reading.record trail OutputFields.read {} node
  let standard : Placement := {}
  return {
    directory := fields.directory.getD standard.directory
    extension := fields.extension.getD standard.extension }

structure PromptFields where
  strictMenus : Option Bool := none

def PromptFields.read (fields : PromptFields) (name : String) (trail : Trail) (node : Node) :
    Reading PromptFields := do
  if name == "strict_menus" then
    return { fields with
      strictMenus := ← Reading.once trail fields.strictMenus (Reading.bool trail node) }
  else return fields

def readPrompts (trail : Trail) (node : Node) : Reading Bool := do
  let fields ← Reading.record trail PromptFields.read {} node
  return fields.strictMenus.getD false

structure Fields where
  output : Option Placement := none
  prompts : Option Bool := none

def Fields.read (fields : Fields) (name : String) (trail : Trail) (node : Node) :
    Reading Fields := do
  if name == "output" then
    return { fields with
      output := ← Reading.once trail fields.output (readOutput trail node) }
  else if name == "prompts" then
    return { fields with
      prompts := ← Reading.once trail fields.prompts (readPrompts trail node) }
  else return fields

def ofRoot (_ : Nat) (trail : Trail) (node : Node) : Reading Config := do
  let fields ← Reading.record trail Fields.read {} node
  return { output := fields.output.getD {}, strictMenus := fields.prompts.getD false }

/-- The configuration that a text holds; none for a malformed text. -/
def ofText? (source : String) : Option Config :=
  (readRoot ofRoot source).toOption

end Config

/-! Arguments count before the configuration file, and that before the defaults. -/

structure Settings where
  placement : Placement := {}
  options : Options := {}
  deriving DecidableEq, Repr

def Settings.resolve (arguments : Arguments) (config : Config) : Settings :=
  { placement :=
      { directory := arguments.outputDirectory.getD config.output.directory
        extension := arguments.extension.getD config.output.extension }
    options := { strictMenus := arguments.strictMenus || config.strictMenus } }

/-! How much is reported depends on how often verbosity was asked for. -/

def threshold (verbosity : Nat) : Level :=
  match verbosity with
  | 0 => .warn
  | 1 => .info
  | _ => .debug

def reported (verbosity : Nat) (notice : Notice) : Bool :=
  (threshold verbosity).rank ≤ notice.level.rank

end SuiteScribe.Command
