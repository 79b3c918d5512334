import SuiteScribe.Files
import SuiteScribe.Suite.Basic

namespace SuiteScribe.Script

open Text

/-! Literals of the generated script. A string stands between single quotation marks. -/

def escapeQuoted : Char → List Char
  | '\\' => ['\\', '\\']
  | '\'' => ['\\', '\'']
  | '\n' => ['\\', 'n']
  | '\r' => ['\\', 'r']
  | '\t' => ['\\', 't']
  | c => [c]

def quoteChars (value : List Char) : List Char :=
  '\'' :: value.flatMap escapeQuoted ++ ['\'']

def quote (value : String) : String :=
  String.ofList (quoteChars value.toList)

theorem toList_quote (value : String) : (quote value).toList = quoteChars value.toList :=
  String.toList_ofList

/-! A pattern that matches a text literally: operators of regular expressions stand behind a
backslash, and after that the slashes that would end the literal. -/

def patternOperators : List Char :=
  ['\\', '.', '+', '*', '?', '(', ')', '|', '[', ']', '\x7b', '\x7d', '^', '$', '#', '&', '-', '~']

def escapeOperators (text : List Char) : List Char :=
  text.flatMap fun c => if c ∈ patternOperators then ['\\', c] else [c]

def escapeSlashes (text : List Char) : List Char :=
  text.flatMap fun c => if c = '/' then ['\\', '/'] else [c]

def urlPattern (fragment : String) : String :=
  String.ofList ('/' :: escapeSlashes (escapeOperators fragment.toList) ++ ['/'])

/-! The second pass goes over the backslashes of the first and leaves them alone, so that both can
be made in one. -/

def escapePattern (c : Char) : List Char :=
  if patternOperators.contains c || c == '/' then ['\\', c] else [c]

theorem escapeSlashes_escapeOperators (fragment : List Char) :
    escapeSlashes (escapeOperators fragment) = fragment.flatMap escapePattern := by
  unfold escapeSlashes escapeOperators
  rw [List.flatMap_assoc]
  congr 1
  funext c
  unfold escapePattern
  by_cases hslash : c = '/'
  · subst hslash
    rfl
  · by_cases hoperator : c ∈ patternOperators
    · simp [hoperator, hslash]
    · simp [hoperator, hslash]

def urlPatternChars (fragment : List Char) : List Char :=
  '/' :: fragment.flatMap escapePattern ++ ['/']

theorem toList_urlPattern (fragment : String) :
    (urlPattern fragment).toList = urlPatternChars fragment.toList := by
  rw [urlPattern, String.toList_ofList, escapeSlashes_escapeOperators, urlPatternChars]

/-! Screenshots are kept as PNG files in a directory of their own. -/

def endsInPng (name : List Char) : Bool :=
  ['.', 'p', 'n', 'g'].isSuffixOf (lowercaseAll name)

def screenshotPath (name : String) : String :=
  if endsInPng name.toList then "screenshots/" ++ name
  else "screenshots/" ++ name ++ ".png"

/-! Free text inside comments. It is collapsed onto one line, and inside a block comment the
closing mark is taken apart. -/

def singleLineChars (text : List Char) : List Char :=
  [' '].intercalate (words text)

def singleLine (text : String) : String :=
  String.ofList (singleLineChars text.toList)

theorem toList_singleLine (text : String) :
    (singleLine text).toList = singleLineChars text.toList :=
  String.toList_ofList

def splitClosers : List Char → List Char
  | '*' :: '/' :: rest => '*' :: ' ' :: '/' :: splitClosers rest
  | c :: rest => c :: splitClosers rest
  | [] => []

def commentText (text : String) : String :=
  String.ofList (splitClosers (singleLineChars text.toList))

theorem toList_commentText (text : String) :
    (commentText text).toList = splitClosers (singleLineChars text.toList) :=
  String.toList_ofList

/-! Verbatim blocks. The depth of a line is the number of spaces and tabs in front of it; the
least depth of a block is replaced by the wanted indentation. Blank lines at both ends are dropped
and blank lines inside stay as empty lines. -/

def isIndent (c : Char) : Bool :=
  c == ' ' || c == '\t'

def depth (line : List Char) : Nat :=
  (line.takeWhile isIndent).length

def dropBlankEnds (block : List (List Char)) : List (List Char) :=
  ((block.dropWhile (·.isEmpty)).reverse.dropWhile (·.isEmpty)).reverse

def blockLines (text : List Char) : List (List Char) :=
  dropBlankEnds ((lines text).map trimEnd)

def sharedDepth (block : List (List Char)) : Nat :=
  (((block.filter (!·.isEmpty)).map depth).min?).getD 0

def placeLine (indent : List Char) (shared : Nat) (line : List Char) : List Char :=
  if line.isEmpty then [] else indent ++ line.drop shared

def placeBlock (text indent : List Char) : List (List Char) :=
  let block := blockLines text
  block.map (placeLine indent (sharedDepth block))

def verbatimLines (text indent : String) : List String :=
  (placeBlock text.toList indent.toList).map String.ofList

/-! Statements for steps: one comment line, and the statement of the action after it. Step lines
stand three levels deep, inside the describe block, the test and the test step. -/

def level : String := "  "

def stepIndent : String := "      "

def locator (target : Target) : String :=
  if target.name.isEmpty then
    "page.getByRole(" ++ quote target.role ++ ")"
  else
    "page.getByRole(" ++ quote target.role ++ ", \x7b name: " ++ quote target.name ++ " \x7d)"

def assertionStatement : Assertion → String
  | .visible target => "await expect(" ++ locator target ++ ").toBeVisible();"
  | .hasText target expected =>
      "await expect(" ++ locator target ++ ").toContainText(" ++ quote expected ++ ");"
  | .enabled target => "await expect(" ++ locator target ++ ").toBeEnabled();"
  | .disabled target => "await expect(" ++ locator target ++ ").toBeDisabled();"
  | .hasUrl expected => "await expect(page).toHaveURL(" ++ urlPattern expected ++ ");"

def actionLines : Action → List String
  | .click target => [stepIndent ++ "await " ++ locator target ++ ".click();"]
  | .fill target value =>
      [stepIndent ++ "await " ++ locator target ++ ".fill(" ++ quote value ++ ");"]
  | .verify assertion => [stepIndent ++ assertionStatement assertion]
  | .navigate path => [stepIndent ++ "await page.goto(" ++ quote path ++ ");"]
  | .screenshot name =>
      [stepIndent ++ "await page.screenshot(\x7b path: " ++ quote (screenshotPath name) ++
        " \x7d);"]
  | .custom statement => verbatimLines statement stepIndent

def commentLine (step : Step) : String :=
  stepIndent ++ "// " ++ singleLine step.description

def stepLines (step : Step) : List String :=
  commentLine step :: actionLines step.action

def stepsLines (steps : List Step) : List String :=
  steps.flatMap stepLines

/-! The time of generation, in seconds since the start of 1970, as a calendar date and time of day
in UTC. Days are counted in the proleptic Gregorian calendar; its eras of 400 years start on the
first of March. -/

structure CivilDate where
  year : Int
  month : Nat
  day : Nat
  deriving DecidableEq, Repr

def daysPerEra : Nat := 146097

def yearOfEra (dayOfEra : Nat) : Nat :=
  (dayOfEra - dayOfEra / 1460 + dayOfEra / 36524 - dayOfEra / 146096) / 365

def CivilDate.ofDays (days : Int) : CivilDate :=
  let shifted := days + 719468
  let era := shifted.fdiv daysPerEra
  let dayOfEra := (shifted.fmod daysPerEra).toNat
  let year := yearOfEra dayOfEra
  let dayOfYear := dayOfEra - (365 * year + year / 4 - year / 100)
  let marchMonth := (5 * dayOfYear + 2) / 153
  let day := dayOfYear - (153 * marchMonth + 2) / 5 + 1
  let month := if marchMonth < 10 then marchMonth + 3 else marchMonth - 9
  { year := era * 400 + year + (if month ≤ 2 then 1 else 0), month, day }

def padded (width : Nat) (n : Nat) : String :=
  let digits := toString n
  String.ofList (List.replicate (width - digits.length) '0') ++ digits

/-- Years of four digits stand bare; all others carry a sign. -/
def yearText (year : Int) : String :=
  if year < 0 then "-" ++ padded 4 year.natAbs
  else if year ≤ 9999 then padded 4 year.natAbs
  else "+" ++ padded 4 year.natAbs

/-- The time is given in whole seconds since 1970, and these do not count leap seconds: no time
given so is printed with `:60`. -/
def timestamp (seconds : Int) : String :=
  let date := CivilDate.ofDays (seconds.fdiv 86400)
  let time := (seconds.fmod 86400).toNat
  yearText date.year ++ "-" ++ padded 2 date.month ++ "-" ++ padded 2 date.day ++ "T" ++
    padded 2 (time / 3600) ++ ":" ++ padded 2 (time / 60 % 60) ++ ":" ++
    padded 2 (time % 60) ++ "Z"

/-! Where a generated file goes. Its name is made of the base name of the suite, in which only
letters, numbers, hyphens, underscores and dots survive, and of the extension. -/

def keepsInName (c : Char) : Bool :=
  isAlphanumeric c || c == '-' || c == '_' || c == '.'

def sanitizeChars (name : List Char) : List Char :=
  let kept := (trim name).map fun c => if keepsInName c then c else '_'
  if kept.all (· == '.') then kept.map fun _ => '_' else kept

def sanitizeFileName (name : String) : String :=
  String.ofList (sanitizeChars name.toList)

structure Placement where
  directory : String := "tests/e2e"
  extension : String := "spec.ts"
  deriving DecidableEq, Repr

def bareExtension (extension : String) : String :=
  String.ofList (extension.toList.dropWhile (· == '.'))

def Placement.fileName (placement : Placement) (baseName : String) : String :=
  sanitizeFileName baseName ++ "." ++ bareExtension placement.extension

def Placement.pathFor (placement : Placement) (baseName : String) : String :=
  Files.join placement.directory (placement.fileName baseName)

/-! The generated file: an import line, a header comment, and one describe block with the setup
hook and a test for each case. Every part is text that ends its last line. -/

def withFeed (line : String) : String :=
  line ++ "\n"

def joinLines (lines : List String) : String :=
  String.join (lines.map withFeed)

/-! A base address and a path are joined by exactly one slash, also where nothing is left of the
path. -/

def dropTrailingSlashes (text : List Char) : List Char :=
  (text.reverse.dropWhile (· == '/')).reverse

def dropLeadingSlashes (text : List Char) : List Char :=
  text.dropWhile (· == '/')

def joinUrl (base path : String) : String :=
  let front := String.ofList (dropTrailingSlashes base.toList)
  let rest := String.ofList (dropLeadingSlashes path.toList)
  if rest.isEmpty then front ++ "/" else front ++ "/" ++ rest

def headerLines (suite : Suite) (generatedAt : Int) : List String :=
  ["/**",
   " * " ++ commentText suite.describeTitle,
   " *",
   " * Category: " ++ suite.category.label,
   " * Feature: " ++ commentText suite.featureName,
   " * Generated: " ++ timestamp generatedAt,
   " */"]

def setupLines (setup : Option String) : List String :=
  match setup with
  | none => []
  | some text => verbatimLines text (level ++ level)

def hookLines (suite : Suite) : List String :=
  [level ++ "test.beforeEach(async (\x7b page \x7d) => \x7b",
   level ++ level ++ "await page.goto(" ++
     quote (joinUrl suite.baseUrl suite.initialPath) ++ ");"] ++
  setupLines suite.additionalSetup ++
  [level ++ "\x7d);"]

def caseLines (case : TestCase) : List String :=
  [level ++ "test(" ++ quote case.title ++ ", async (\x7b page \x7d) => \x7b",
   level ++ level ++ "// Objective: " ++ singleLine case.objective,
   level ++ level ++ "await test.step(" ++ quote case.title ++ ", async () => \x7b"] ++
  stepsLines case.steps ++
  [level ++ level ++ "\x7d);",
   level ++ "\x7d);"]

def scriptLines (suite : Suite) (generatedAt : Int) : List String :=
  ["import \x7b test, expect \x7d from '@playwright/test';", ""] ++
  headerLines suite generatedAt ++
  ["", "test.describe(" ++ quote suite.describeTitle ++ ", () => \x7b"] ++
  hookLines suite ++
  suite.testCases.flatMap (fun case => "" :: caseLines case) ++
  ["\x7d);"]

def assemble (suite : Suite) (generatedAt : Int) : String :=
  joinLines (scriptLines suite generatedAt)

end SuiteScribe.Script
