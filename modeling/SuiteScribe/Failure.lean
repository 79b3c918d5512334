import SuiteScribe.Files
import SuiteScribe.SuiteFile
import SuiteScribe.Text.Visible
import SuiteScribe.Transcript

namespace SuiteScribe

open Text

/-! What ends a run. Answers that are missing or not understood never do: they are asked again or
read as a default. -/

inductive Failure
  | inputClosed (prompt : String)
  | terminal (fault : Fault)
  | write (path : String) (fault : Fault)
  | transcript (path : String) (fault : Fault)
  | transcriptLine (number : Nat) (fault : LineFault)
  | suiteFile (path : String) (fault : Fault)
  | suiteText (path : String) (detail : Option String)
  | invalidSuite (defect : Defect)
  deriving DecidableEq, Repr

namespace Failure

def withDetail (text : String) : Option String → String
  | none => text
  | some detail => text ++ ": " ++ detail

def lineDetail : LineFault → Option String
  | .malformed => none
  | .missingField name => SuiteFile.Problem.message? (.missingField name)

def message : Failure → String
  | inputClosed prompt => "input closed while waiting for '" ++ prompt ++ "'"
  | terminal fault => "terminal I/O failed: " ++ fault.message
  | write path fault => "failed to write " ++ displayed path ++ ": " ++ fault.message
  | transcript path fault => "transcript " ++ displayed path ++ ": " ++ fault.message
  | transcriptLine number fault =>
      withDetail ("invalid transcript line " ++ toString number) (lineDetail fault)
  | suiteFile path fault => "suite file " ++ displayed path ++ ": " ++ fault.message
  | suiteText path detail => withDetail ("invalid suite YAML in " ++ displayed path) detail
  | invalidSuite defect => "invalid suite: " ++ defect.message

end Failure

end SuiteScribe
