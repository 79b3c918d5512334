import SuiteScribe.Proofs.Script.Lexical
import SuiteScribe.Proofs.Suite.NormalForm

namespace SuiteScribe.Script

/-! Pieces of a script that a scan enters in code and leaves in code. -/

def Reads (text code : List Char) : Prop :=
  ∀ rest, scan .code (text ++ rest) = (scan .code rest).meet code

theorem Reads.append {first second firstCode secondCode : List Char}
    (hfirst : Reads first firstCode) (hsecond : Reads second secondCode) :
    Reads (first ++ second) (firstCode ++ secondCode) := by
  intro rest
  rw [List.append_assoc, hfirst, hsecond, Scan.meet_meet]

theorem Reads.scan_eq {text code : List Char} (h : Reads text code) :
    scan .code text = { mode := .code, code } := by
  have hscan := h []
  rw [List.append_nil] at hscan
  rw [hscan, scan, Scan.meet, List.append_nil]

/-- Text without quotation marks and slashes is code throughout. -/
def isPlain (text : List Char) : Bool :=
  text.all fun c => c != '\'' && c != '/'

theorem reads_plain {text : List Char} (h : isPlain text = true) : Reads text text := by
  intro rest
  induction text with
  | nil => rfl
  | cons c text ih =>
      simp only [isPlain, List.all_cons, Bool.and_eq_true, bne_iff_ne] at h ih
      rw [List.cons_append, scan_code h.1.1 h.1.2, ih h.2, Scan.meet_meet]
      rfl

/-! Two pieces are alike if the same is met of them in code, and the brackets in it lead from what
was open before to what is open after. -/

def Alike (before after : List Char) (first second : String) : Prop :=
  ∃ code, Reads first.toList code ∧ Reads second.toList code ∧ settle before code = some after

namespace Alike

variable {before between after : List Char}

theorem append {first second more other : String} (h : Alike before between first second)
    (hmore : Alike between after more other) :
    Alike before after (first ++ more) (second ++ other) := by
  obtain ⟨code, hfirst, hsecond, hsettle⟩ := h
  obtain ⟨rest, hmoreReads, hotherReads, hrest⟩ := hmore
  refine ⟨code ++ rest, ?_, ?_, ?_⟩
  · rw [String.toList_append]
    exact hfirst.append hmoreReads
  · rw [String.toList_append]
    exact hsecond.append hotherReads
  · rw [settle_append, hsettle, Option.bind_some, hrest]

theorem plain {text : String} (hplain : isPlain text.toList = true)
    (hsettle : settle before text.toList = some after) : Alike before after text text :=
  ⟨text.toList, reads_plain hplain, reads_plain hplain, hsettle⟩

theorem code {first second text : String} (h : Alike before between first second)
    (hplain : isPlain text.toList = true) (hsettle : settle between text.toList = some after) :
    Alike before after (first ++ text) (second ++ text) :=
  h.append (.plain hplain hsettle)

theorem quote (first second : String) : Alike before before (quote first) (quote second) := by
  refine ⟨['\''], ?_, ?_, rfl⟩
  · rw [toList_quote]
    exact scan_quoteChars first.toList
  · rw [toList_quote]
    exact scan_quoteChars second.toList

theorem quoted {first second : String} (h : Alike before after first second)
    (value other : String) :
    Alike before after (first ++ Script.quote value) (second ++ Script.quote other) :=
  h.append (.quote value other)

theorem matching {text more : String} (h : Alike before after text more)
    {first second : String} (hfirst : first.toList ≠ []) (hsecond : second.toList ≠ []) :
    Alike before after (text ++ urlPattern first) (more ++ urlPattern second) := by
  refine h.append ⟨['/'], ?_, ?_, rfl⟩
  · rw [toList_urlPattern]
    exact scan_urlPatternChars hfirst
  · rw [toList_urlPattern]
    exact scan_urlPatternChars hsecond

end Alike

/-! Lines one after another. -/

theorem toList_joinLines (lines : List String) :
    (joinLines lines).toList = lines.flatMap fun line => line.toList ++ ['\n'] := by
  rw [joinLines, String.toList_join, List.flatMap_map]
  exact congrArg (List.flatMap · lines) (funext fun line => String.toList_append)

theorem joinLines_cons (line : String) (lines : List String) :
    joinLines (line :: lines) = withFeed line ++ joinLines lines := by
  apply String.toList_inj.mp
  rw [String.toList_append, toList_joinLines, toList_joinLines, List.flatMap_cons, withFeed,
    String.toList_append]
  rfl

theorem joinLines_append (first second : List String) :
    joinLines (first ++ second) = joinLines first ++ joinLines second := by
  apply String.toList_inj.mp
  rw [String.toList_append, toList_joinLines, toList_joinLines, toList_joinLines,
    List.flatMap_append]

def AlikeLines (before after : List Char) (first second : List String) : Prop :=
  Alike before after (joinLines first) (joinLines second)

namespace AlikeLines

variable {before between after : List Char}

theorem nil : AlikeLines before before [] [] :=
  .plain rfl rfl

theorem append {first second more other : List String}
    (h : AlikeLines before between first second) (hmore : AlikeLines between after more other) :
    AlikeLines before after (first ++ more) (second ++ other) := by
  rw [AlikeLines, joinLines_append, joinLines_append]
  exact Alike.append h hmore

theorem cons {first second : String} {more other : List String}
    (h : Alike before between (withFeed first) (withFeed second))
    (hmore : AlikeLines between after more other) :
    AlikeLines before after (first :: more) (second :: other) := by
  rw [AlikeLines, joinLines_cons, joinLines_cons]
  exact Alike.append h hmore

theorem line {first second : String} {more other : List String}
    (h : Alike before between first second) (hmore : AlikeLines between after more other) :
    AlikeLines before after (first :: more) (second :: other) :=
  cons (h.code rfl rfl) hmore

theorem flatMap {shape : α → β} {lines : α → List String} {first second : List α}
    (h : first.map shape = second.map shape)
    (hone : ∀ one ∈ first, ∀ other ∈ second, shape one = shape other →
      AlikeLines before before (lines one) (lines other)) :
    AlikeLines before before (first.flatMap lines) (second.flatMap lines) := by
  induction first generalizing second with
  | nil =>
      cases second with
      | nil => exact nil
      | cons other second => cases h
  | cons one first ih =>
      cases second with
      | nil => cases h
      | cons other second =>
          rw [List.map_cons, List.map_cons, List.cons.injEq] at h
          rw [List.flatMap_cons, List.flatMap_cons]
          refine append (hone one List.mem_cons_self other List.mem_cons_self h.1) ?_
          refine ih h.2 fun one hmem other hother => ?_
          exact hone one (List.mem_cons_of_mem _ hmem) other (List.mem_cons_of_mem _ hother)

end AlikeLines

/-! A comment takes up the rest of its line, or all lines up to its end. -/

theorem reads_comment {indent mark text : String} {note : List Char}
    (hindent : isPlain indent.toList = true) (hmark : mark.toList = '/' :: '/' :: note)
    (hnote : '\n' ∉ note) (htext : '\n' ∉ text.toList) :
    Reads (withFeed (indent ++ mark ++ text)).toList (indent.toList ++ ['/', '/', '\n']) := by
  have hline : Reads ('/' :: '/' :: (note ++ text.toList) ++ ['\n']) ['/', '/', '\n'] := by
    intro rest
    rw [List.append_assoc, List.singleton_append]
    exact scan_lineComment_text (by simp [hnote, htext]) rest
  have hchars : (withFeed (indent ++ mark ++ text)).toList =
      indent.toList ++ ('/' :: '/' :: (note ++ text.toList) ++ ['\n']) := by
    simp [withFeed, hmark]
  rw [hchars]
  exact (reads_plain hindent).append hline

theorem AlikeLines.comment {before after : List Char} {indent mark first second : String}
    {note : List Char} {more other : List String} (hindent : isPlain indent.toList = true)
    (hsettle : settle before (indent.toList ++ ['/', '/', '\n']) = some before)
    (hmark : mark.toList = '/' :: '/' :: note) (hnote : '\n' ∉ note)
    (hfirst : '\n' ∉ first.toList) (hsecond : '\n' ∉ second.toList)
    (hmore : AlikeLines before after more other) :
    AlikeLines before after ((indent ++ mark ++ first) :: more)
      ((indent ++ mark ++ second) :: other) :=
  .cons ⟨_, reads_comment hindent hmark hnote hfirst, reads_comment hindent hmark hnote hsecond,
    hsettle⟩ hmore

theorem contained_line {mark text : String} {more : List Char}
    (hmark : mark.toList = ' ' :: '*' :: ' ' :: more) (hmore : '*' ∉ more)
    (htext : Contained (text.toList ++ ['\n'])) : Contained (withFeed (mark ++ text)).toList := by
  have hspace : Contained [' '] := contained_of_not_mem (by decide)
  have hstar : Contained ['*', ' '] := contained_star (by decide) (by decide)
  have hline := hspace.append (hstar.append ((contained_of_not_mem hmore).append htext))
  have hchars : (withFeed (mark ++ text)).toList =
      [' '] ++ (['*', ' '] ++ (more ++ (text.toList ++ ['\n']))) := by
    simp [withFeed, hmark]
  rwa [hchars]

theorem contained_joinLines {lines : List String}
    (h : ∀ line ∈ lines, Contained (withFeed line).toList) :
    Contained (joinLines lines).toList := by
  induction lines with
  | nil =>
      intro rest
      rfl
  | cons line lines ih =>
      rw [List.forall_mem_cons] at h
      rw [joinLines_cons, String.toList_append]
      exact h.1.append (ih h.2)

theorem reads_blockComment {lines : List String}
    (h : ∀ line ∈ lines, Contained (withFeed line).toList) :
    Reads (joinLines ("/**" :: lines ++ [" */"])).toList ['/', '*', '\n'] := by
  intro rest
  have hopen : ∀ body, scan .code ('/' :: '*' :: '*' :: '\n' :: body) =
      (scan .blockComment body).meet ['/', '*'] := by
    intro body
    rw [scan, scan_star (by decide), scan_blockComment (by decide)]
  have hclose : scan .blockComment (' ' :: '*' :: '/' :: '\n' :: rest) =
      (scan .code rest).meet ['\n'] := by
    rw [scan_blockComment (by decide), scan, scan_code (by decide) (by decide)]
  have hchars : (joinLines ("/**" :: lines ++ [" */"])).toList ++ rest =
      '/' :: '*' :: '*' :: '\n' ::
        ((joinLines lines).toList ++ ' ' :: '*' :: '/' :: '\n' :: rest) := by
    simp [withFeed, joinLines]
  rw [hchars, hopen, contained_joinLines h, hclose, Scan.meet_meet]
  rfl

end SuiteScribe.Script

namespace SuiteScribe

open Script Text

/-! The shape of a suite: which kinds of steps its test cases have, and which targets are without a
name. Texts and categories are no part of it. -/

structure ActionShape where
  kind : ActionKind
  assertion : Option AssertionKind
  unnamed : Option Bool
  deriving DecidableEq, Repr

def Action.assertion? : Action → Option Assertion
  | .verify assertion => some assertion
  | _ => none

def Action.target? : Action → Option Target
  | .click target => some target
  | .fill target _ => some target
  | .verify assertion => assertion.target?
  | _ => none

def Action.shape (action : Action) : ActionShape :=
  { kind := action.kind
    assertion := action.assertion?.map (·.kind)
    unnamed := action.target?.map (·.name.isEmpty) }

def TestCase.shape (case : TestCase) : List ActionShape :=
  case.steps.map (·.action.shape)

def Suite.shape (suite : Suite) : List (List ActionShape) :=
  suite.testCases.map (·.shape)

/-- A suite that brings no code of its own. -/
def Suite.CodeFree (suite : Suite) : Prop :=
  suite.additionalSetup = none ∧
    ∀ case ∈ suite.testCases, ∀ step ∈ case.steps, step.action.kind ≠ .custom

instance (suite : Suite) : Decidable suite.CodeFree :=
  inferInstanceAs (Decidable (_ ∧ _))

namespace Script

variable {before after : List Char}

/-! Steps of one shape are alike, line by line. -/

theorem Alike.located {text more : String} (h : Alike before after text more)
    {first second : Target} (hname : first.name.isEmpty = second.name.isEmpty) :
    Alike before after (text ++ locator first) (more ++ locator second) := by
  refine h.append ?_
  rw [locator, locator, hname]
  split
  · exact ((Alike.plain rfl rfl).quoted _ _).code rfl rfl
  · exact ((((Alike.plain rfl rfl).quoted _ _).code rfl rfl).quoted _ _).code rfl rfl

theorem toList_ne_nil_of_not_blank {text : String} (h : blank text = false) :
    text.toList ≠ [] := by
  intro hnil
  rw [blank, hnil] at h
  cases h

theorem alike_assertion {first second : Assertion}
    (hshape : (Action.verify first).shape = (Action.verify second).shape)
    (hfirst : ∀ expected ∈ first.expected?, blank expected = false)
    (hsecond : ∀ expected ∈ second.expected?, blank expected = false) :
    Alike before before (assertionStatement first) (assertionStatement second) := by
  have hkind : first.kind = second.kind := by
    simpa [Action.shape, Action.assertion?] using congrArg ActionShape.assertion hshape
  have hname : first.target?.map (·.name.isEmpty) = second.target?.map (·.name.isEmpty) :=
    congrArg ActionShape.unnamed hshape
  cases first with
  | visible target =>
      cases second with
      | visible other =>
          exact ((Alike.plain rfl rfl).located (Option.some.inj hname)).code rfl rfl
      | _ => cases hkind
  | hasText target expected =>
      cases second with
      | hasText other text =>
          exact ((((Alike.plain rfl rfl).located (Option.some.inj hname)).code rfl rfl).quoted
            _ _).code rfl rfl
      | _ => cases hkind
  | enabled target =>
      cases second with
      | enabled other =>
          exact ((Alike.plain rfl rfl).located (Option.some.inj hname)).code rfl rfl
      | _ => cases hkind
  | disabled target =>
      cases second with
      | disabled other =>
          exact ((Alike.plain rfl rfl).located (Option.some.inj hname)).code rfl rfl
      | _ => cases hkind
  | hasUrl expected =>
      cases second with
      | hasUrl text =>
          exact ((Alike.plain rfl rfl).matching (toList_ne_nil_of_not_blank (hfirst expected rfl))
            (toList_ne_nil_of_not_blank (hsecond text rfl))).code rfl rfl
      | _ => cases hkind

theorem blank_of_expected {assertion : Assertion}
    (h : ∀ field ∈ assertion.requiredTexts, blank field.2 = false) :
    ∀ expected ∈ assertion.expected?, blank expected = false := by
  intro expected hexpected
  apply h (.assertionExpected, expected)
  apply List.mem_append_right
  rw [Option.mem_toList, hexpected, Option.map_some]

theorem alikeLines_action {first second : Action} (hshape : first.shape = second.shape)
    (hcustom : first.kind ≠ .custom)
    (hfirst : ∀ field ∈ first.requiredTexts, blank field.2 = false)
    (hsecond : ∀ field ∈ second.requiredTexts, blank field.2 = false) :
    AlikeLines before before (actionLines first) (actionLines second) := by
  have hkind : first.kind = second.kind := congrArg ActionShape.kind hshape
  have hname : first.target?.map (·.name.isEmpty) = second.target?.map (·.name.isEmpty) :=
    congrArg ActionShape.unnamed hshape
  cases first with
  | click target =>
      cases second with
      | click other =>
          exact .line (((Alike.plain rfl rfl).located (Option.some.inj hname)).code rfl rfl) .nil
      | _ => cases hkind
  | fill target value =>
      cases second with
      | fill other text =>
          have hunnamed := Option.some.inj hname
          exact .line (((((Alike.plain rfl rfl).located hunnamed).code rfl rfl).quoted _ _).code
            rfl rfl) .nil
      | _ => cases hkind
  | verify assertion =>
      cases second with
      | verify other =>
          exact .line ((Alike.plain rfl rfl).append (alike_assertion hshape
            (blank_of_expected hfirst) (blank_of_expected hsecond))) .nil
      | _ => cases hkind
  | navigate path =>
      cases second with
      | navigate other =>
          exact .line (((Alike.plain rfl rfl).quoted _ _).code rfl rfl) .nil
      | _ => cases hkind
  | screenshot name =>
      cases second with
      | screenshot other =>
          exact .line (((Alike.plain rfl rfl).quoted _ _).code rfl rfl) .nil
      | _ => cases hkind
  | custom statement => exact absurd rfl hcustom

theorem alikeLines_step {first second : Step} (hshape : first.action.shape = second.action.shape)
    (hcustom : first.action.kind ≠ .custom) (hfirst : first.missing? = none)
    (hsecond : second.missing? = none) :
    AlikeLines before before (stepLines first) (stepLines second) := by
  rw [Step.missing?, firstBlank_eq_none_iff, List.forall_mem_cons] at hfirst hsecond
  exact .comment rfl rfl rfl (by decide) (feed_not_mem_singleLine _) (feed_not_mem_singleLine _)
    (alikeLines_action hshape hcustom hfirst.2 hsecond.2)

/-! So are test cases of one shape, and header comments of any kind. -/

theorem alikeLines_case {first second : TestCase} (hshape : first.shape = second.shape)
    (hcustom : ∀ step ∈ first.steps, step.action.kind ≠ .custom) (hfirst : first.Complete)
    (hsecond : second.Complete) :
    AlikeLines before before (caseLines first) (caseLines second) := by
  have hsteps : ∀ awaited,
      AlikeLines awaited awaited (stepsLines first.steps) (stepsLines second.steps) := by
    intro awaited
    refine .flatMap hshape fun one hone other hother hsame => ?_
    exact alikeLines_step hsame (hcustom one hone) (hfirst.2 one hone) (hsecond.2 other hother)
  refine .append (.append ?_ (hsteps ('\x7d' :: ')' :: '\x7d' :: ')' :: before))) ?_
  · refine .line (((Alike.plain rfl rfl).quoted _ _).code rfl rfl) ?_
    refine .comment rfl rfl rfl (by decide) (feed_not_mem_singleLine _)
      (feed_not_mem_singleLine _) ?_
    exact .line (((Alike.plain rfl rfl).quoted _ _).code rfl rfl) .nil
  · exact .line (.plain rfl rfl) (.line (.plain rfl rfl) .nil)

theorem star_not_mem_label (category : Category) : '*' ∉ category.label.toList := by
  cases category <;> decide

theorem headerLines_eq (suite : Suite) (generatedAt : Int) :
    headerLines suite generatedAt =
      "/**" ::
        [" * " ++ commentText suite.describeTitle, " *", " * Category: " ++ suite.category.label,
         " * Feature: " ++ commentText suite.featureName,
         " * Generated: " ++ timestamp generatedAt] ++
      [" */"] := rfl

theorem reads_header (suite : Suite) (generatedAt : Int) :
    Reads (joinLines (headerLines suite generatedAt)).toList ['/', '*', '\n'] := by
  have hfeed : Contained ['\n'] := contained_of_not_mem (by decide)
  have htitle : Contained (withFeed (" * " ++ commentText suite.describeTitle)).toList :=
    contained_line rfl (by decide) (contained_commentText _)
  have hempty : Contained (withFeed " *").toList :=
    (contained_of_not_mem (by decide) : Contained [' ']).append
      (contained_star (by decide) (by decide) : Contained ['*', '\n'])
  have hcategory : Contained (withFeed (" * Category: " ++ suite.category.label)).toList :=
    contained_line rfl (by decide)
      ((contained_of_not_mem (star_not_mem_label suite.category)).append hfeed)
  have hfeature : Contained (withFeed (" * Feature: " ++ commentText suite.featureName)).toList :=
    contained_line rfl (by decide) (contained_commentText _)
  have htime : Contained (withFeed (" * Generated: " ++ timestamp generatedAt)).toList :=
    contained_line rfl (by decide)
      ((contained_of_not_mem (star_not_mem_timestamp generatedAt)).append hfeed)
  rw [headerLines_eq]
  apply reads_blockComment
  simp only [List.forall_mem_cons]
  exact ⟨htitle, hempty, hcategory, hfeature, htime, List.forall_mem_nil _⟩

theorem alikeLines_header (first second : Suite) (time later : Int) :
    AlikeLines before before (headerLines first time) (headerLines second later) :=
  ⟨_, reads_header first time, reads_header second later, rfl⟩

theorem alike_import :
    Alike before before "import \x7b test, expect \x7d from '@playwright/test';"
      "import \x7b test, expect \x7d from '@playwright/test';" := by
  have himport : "import \x7b test, expect \x7d from '@playwright/test';" =
      "import \x7b test, expect \x7d from " ++ quote "@playwright/test" ++ ";" := by rfl
  rw [himport]
  exact ((Alike.plain rfl rfl).quoted _ _).code rfl rfl

theorem alikeLines_hook {first second : Suite} (hfirst : first.additionalSetup = none)
    (hsecond : second.additionalSetup = none) :
    AlikeLines before before (hookLines first) (hookLines second) := by
  rw [hookLines, hookLines, hfirst, hsecond]
  refine .line (.plain rfl rfl) ?_
  refine .line (((Alike.plain rfl rfl).quoted _ _).code rfl rfl) ?_
  exact .line (.plain rfl rfl) .nil

theorem alikeLines_script {first second : Suite} (hshape : first.shape = second.shape)
    (hfirst : first.defect? = none) (hsecond : second.defect? = none) (hfree : first.CodeFree)
    (hother : second.CodeFree) (time later : Int) :
    AlikeLines [] [] (scriptLines first time) (scriptLines second later) := by
  have hcases : ∀ awaited, AlikeLines awaited awaited
      (first.testCases.flatMap fun case => "" :: caseLines case)
      (second.testCases.flatMap fun case => "" :: caseLines case) := by
    intro awaited
    refine .flatMap hshape fun one hone other hmem hsame => .line (.plain rfl rfl) ?_
    exact alikeLines_case hsame (hfree.2 one hone)
      ((Suite.defect?_eq_none_iff.mp hfirst).2 one hone)
      ((Suite.defect?_eq_none_iff.mp hsecond).2 other hmem)
  have hheader : AlikeLines [] [] (headerLines first time) (headerLines second later) :=
    alikeLines_header first second time later
  have hhook : AlikeLines ['\x7d', ')'] ['\x7d', ')'] (hookLines first) (hookLines second) :=
    alikeLines_hook hfree.1 hother.1
  refine .append (.append (.append (.append (.append ?_ hheader) ?_) hhook) (hcases _)) ?_
  · exact .line alike_import (.line (.plain rfl rfl) .nil)
  · exact .line (.plain rfl rfl) (.line (((Alike.plain rfl rfl).quoted _ _).code rfl rfl) .nil)
  · exact .line (.plain rfl rfl) .nil

/-- No text of a suite gets out of the literal or the comment that it is written in. -/
theorem scan_assemble (suite : Suite) (generatedAt : Int) (haccepted : suite.defect? = none)
    (hfree : suite.CodeFree) :
    (scan .code (assemble suite generatedAt).toList).mode = .code ∧
      Balanced (scan .code (assemble suite generatedAt).toList).code ∧
      ∀ (other : Suite) (later : Int), other.defect? = none → other.CodeFree →
        other.shape = suite.shape →
        (scan .code (assemble other later).toList).code =
          (scan .code (assemble suite generatedAt).toList).code := by
  refine ⟨?_, ?_, fun other later hother hotherFree hshape => ?_⟩
  · obtain ⟨code, hreads, -, -⟩ :=
      alikeLines_script rfl haccepted haccepted hfree hfree generatedAt generatedAt
    rw [assemble, hreads.scan_eq]
  · obtain ⟨code, hreads, -, hsettle⟩ :=
      alikeLines_script rfl haccepted haccepted hfree hfree generatedAt generatedAt
    rw [assemble, hreads.scan_eq]
    exact hsettle
  · obtain ⟨code, hreads, hotherReads, -⟩ :=
      alikeLines_script hshape.symm haccepted hother hfree hotherFree generatedAt later
    rw [assemble, assemble, hreads.scan_eq, hotherReads.scan_eq]

/-- Texts that try to end what they are written in. -/
def hostileSuite : Suite :=
  { featureName := "*/ x /*", fileBaseName := "a", baseUrl := "http://b'); //"
    category := .uiVisual, describeTitle := "it's */ a \\", initialPath := "/\n'"
    additionalSetup := none
    testCases :=
      [{ title := "'); \x7d", objective := "one\ntwo *//"
         steps :=
          [⟨"// \n await", .fill ⟨"it'em", "na\\"⟩ "'"⟩,
           ⟨"/*", .verify (.hasUrl "*/a/(b)")⟩] }] }

def harmlessSuite : Suite :=
  { featureName := "a", fileBaseName := "a", baseUrl := "a", category := .functional
    describeTitle := "a", initialPath := "a", additionalSetup := none
    testCases :=
      [{ title := "a", objective := "a"
         steps := [⟨"a", .fill ⟨"a", "a"⟩ "a"⟩, ⟨"a", .verify (.hasUrl "a")⟩] }] }

theorem scan_assemble_hostile :
    (hostileSuite.defect? = none ∧ hostileSuite.CodeFree) ∧
      Balanced (scan .code (assemble hostileSuite 0).toList).code ∧
      (scan .code (assemble hostileSuite 0).toList).code =
        (scan .code (assemble harmlessSuite 1).toList).code := by
  have haccepted : hostileSuite.defect? = none := by decide
  have hfree : hostileSuite.CodeFree := by decide
  obtain ⟨-, hbalanced, hsame⟩ := scan_assemble hostileSuite 0 haccepted hfree
  refine ⟨⟨haccepted, hfree⟩, hbalanced, ?_⟩
  exact (hsame harmlessSuite 1 (by decide) (by decide) (by decide)).symm

end Script

end SuiteScribe
