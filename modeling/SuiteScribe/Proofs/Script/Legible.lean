import SuiteScribe.Proofs.Script.Escaping
import SuiteScribe.Proofs.Script.LineBreaks
import SuiteScribe.Proofs.Script.Reading

namespace SuiteScribe

open Script Text

/-! What a script tells of steps and test cases. Free text is told up to its white space. -/

def Step.told (step : Step) : Step :=
  { description := singleLine step.description, action := step.action.told }

def TestCase.told (case : TestCase) : TestCase :=
  { title := case.title
    objective := singleLine case.objective
    steps := case.steps.map Step.told }

theorem Category.label_inj {first second : Category} (h : first.label = second.label) :
    first = second := by
  have hfind : ∀ category : Category, all.find? (·.label == category.label) = some category := by
    intro category
    cases category <;> rfl
  have hsecond := hfind second
  rw [← h, hfind first] at hsecond
  exact Option.some.inj hsecond

namespace Script

/-! What stands on a line of the header comment is without line feeds. -/

theorem feed_not_mem_label (category : Category) : '\n' ∉ category.label.toList := by
  cases category <;> decide

theorem mem_splitClosers {text : List Char} {c : Char} (h : c ∈ splitClosers text) :
    c ∈ text ∨ c = ' ' := by
  fun_induction splitClosers text with
  | case1 text ih =>
      simp only [List.mem_cons] at h ⊢
      rcases h with hstar | hspace | hslash | hrest
      · exact .inl (.inl hstar)
      · exact .inr hspace
      · exact .inl (.inr (.inl hslash))
      · exact (ih hrest).imp_left fun hmem => .inr (.inr hmem)
  | case2 d text _ ih =>
      rcases List.mem_cons.mp h with rfl | hrest
      · exact .inl List.mem_cons_self
      · exact (ih hrest).imp_left (List.mem_cons_of_mem d)
  | case3 => cases h

theorem feed_not_mem_commentText (text : String) : '\n' ∉ (commentText text).toList := by
  intro hmem
  rw [toList_commentText] at hmem
  rcases mem_splitClosers hmem with hline | hspace
  · exact feed_not_mem_singleLine text (by rwa [toList_singleLine])
  · revert hspace
    decide

variable {rest more : String}

/-! Texts that start alike start with the same literal or the same line. -/

theorem quote_inj {value other : String} (h : quote value ++ rest = quote other ++ more) :
    value = other ∧ rest = more :=
  (recovers_quoted value).eq_of_append_eq (recovers_quoted other) h

theorem line_inj {first second : String} (hfirst : '\n' ∉ first.toList)
    (hsecond : '\n' ∉ second.toList) (h : first ++ ("\n" ++ rest) = second ++ ("\n" ++ more)) :
    first = second ∧ rest = more := by
  rw [← String.append_assoc, ← String.append_assoc] at h
  exact (recovers_line hfirst).eq_of_append_eq (recovers_line hsecond) h

theorem action_inj {first second : Action} (hfirst : first.kind ≠ .custom)
    (hsecond : second.kind ≠ .custom)
    (h : joinLines (actionLines first) ++ rest = joinLines (actionLines second) ++ more) :
    first.told = second.told ∧ rest = more := by
  obtain ⟨statement, hlines, hstatement⟩ := recovers_action hfirst
  obtain ⟨other, hotherLines, hother⟩ := recovers_action hsecond
  simp only [hlines, hotherLines, joinLines_cons, withFeed, String.append_assoc,
    String.append_right_inj] at h
  obtain ⟨htold, hrest⟩ := hstatement.eq_of_append_eq hother h
  exact ⟨htold, by simpa only [String.append_right_inj] using hrest⟩

theorem step_inj {first second : Step} (hfirst : first.action.kind ≠ .custom)
    (hsecond : second.action.kind ≠ .custom)
    (h : joinLines (stepLines first) ++ rest = joinLines (stepLines second) ++ more) :
    first.told = second.told ∧ rest = more := by
  simp only [stepLines, commentLine, joinLines_cons, withFeed, String.append_assoc,
    String.append_right_inj] at h
  obtain ⟨hdescription, hactions⟩ :=
    line_inj (feed_not_mem_singleLine _) (feed_not_mem_singleLine _) h
  obtain ⟨haction, hrest⟩ := action_inj hfirst hsecond hactions
  exact ⟨by rw [Step.told, Step.told, hdescription, haction], hrest⟩

theorem append_ne_of_apart {first second : String}
    (h : apart first.toList second.toList = true) : first ++ rest ≠ second ++ more := by
  intro heq
  have hdrop := congrArg (fun text => text.toList.dropPrefix? first.toList) heq
  simp only [String.toList_append, dropPrefix?_of_apart h,
    List.dropPrefix?_append_of_beq _ (beq_self_eq_true first.toList)] at hdrop
  cases hdrop

/-! Items one after another are told apart if each of them is, and if what follows them does not
start like an item. -/

theorem series_inj {lines : α → List String} {told : α → β} {first second : List α}
    (hone : ∀ one ∈ first, ∀ other ∈ second, ∀ rest more,
      joinLines (lines one) ++ rest = joinLines (lines other) ++ more →
        told one = told other ∧ rest = more)
    (hrest : ∀ item after, joinLines (lines item) ++ after ≠ rest)
    (hmore : ∀ item after, joinLines (lines item) ++ after ≠ more)
    (h : joinLines (first.flatMap lines) ++ rest = joinLines (second.flatMap lines) ++ more) :
    first.map told = second.map told ∧ rest = more := by
  induction first generalizing second with
  | nil =>
      cases second with
      | nil => exact ⟨rfl, by simpa [joinLines] using h⟩
      | cons other second =>
          rw [List.flatMap_cons, joinLines_append, String.append_assoc] at h
          exact absurd (by simpa [joinLines] using h.symm) (hrest other _)
  | cons one first ih =>
      rw [List.flatMap_cons, joinLines_append, String.append_assoc] at h
      cases second with
      | nil => exact absurd (by simpa [joinLines] using h) (hmore one _)
      | cons other second =>
          rw [List.flatMap_cons, joinLines_append, String.append_assoc] at h
          obtain ⟨htold, hothers⟩ := hone one List.mem_cons_self other List.mem_cons_self _ _ h
          obtain ⟨hmap, hafter⟩ := ih (fun one hmem other hother =>
            hone one (List.mem_cons_of_mem _ hmem) other (List.mem_cons_of_mem _ hother)) hothers
          exact ⟨by rw [List.map_cons, List.map_cons, htold, hmap], hafter⟩

theorem steps_inj {first second : List Step}
    (hfirst : ∀ step ∈ first, step.action.kind ≠ .custom)
    (hsecond : ∀ step ∈ second, step.action.kind ≠ .custom)
    (h : joinLines (stepsLines first) ++ (level ++ (level ++ ("\x7d);" ++ rest))) =
      joinLines (stepsLines second) ++ (level ++ (level ++ ("\x7d);" ++ more)))) :
    first.map Step.told = second.map Step.told ∧ rest = more := by
  have hend : ∀ step after rest,
      joinLines (stepLines step) ++ after ≠ level ++ (level ++ ("\x7d);" ++ rest)) := by
    intro step after rest
    have hclose : level ++ (level ++ ("\x7d);" ++ rest)) = level ++ level ++ "\x7d);" ++ rest := by
      simp only [String.append_assoc]
    simp only [stepLines, commentLine, joinLines_cons, withFeed, String.append_assoc]
    rw [hclose]
    exact append_ne_of_apart rfl
  obtain ⟨hsteps, hrest⟩ := series_inj
    (fun one hone other hother _ _ => step_inj (hfirst one hone) (hsecond other hother))
    (hend · · rest) (hend · · more) h
  exact ⟨hsteps, by simpa only [String.append_right_inj] using hrest⟩

theorem case_inj {first second : TestCase}
    (hfirst : ∀ step ∈ first.steps, step.action.kind ≠ .custom)
    (hsecond : ∀ step ∈ second.steps, step.action.kind ≠ .custom)
    (h : joinLines (caseLines first) ++ rest = joinLines (caseLines second) ++ more) :
    first.told = second.told ∧ rest = more := by
  simp only [caseLines, joinLines_append, joinLines_cons, withFeed, String.append_assoc,
    String.append_right_inj] at h
  obtain ⟨htitle, hbody⟩ := quote_inj h
  simp only [htitle, String.append_right_inj] at hbody
  obtain ⟨hobjective, hsteps⟩ :=
    line_inj (feed_not_mem_singleLine _) (feed_not_mem_singleLine _) hbody
  simp only [String.append_right_inj] at hsteps
  obtain ⟨htold, hrest⟩ := steps_inj hfirst hsecond hsteps
  refine ⟨by rw [TestCase.told, TestCase.told, htitle, hobjective, htold], ?_⟩
  simpa only [String.append_right_inj] using hrest

theorem cases_inj {first second : List TestCase}
    (hfirst : ∀ case ∈ first, ∀ step ∈ case.steps, step.action.kind ≠ .custom)
    (hsecond : ∀ case ∈ second, ∀ step ∈ case.steps, step.action.kind ≠ .custom)
    (h : joinLines (first.flatMap fun case => "" :: caseLines case) ++ ("\x7d);" ++ rest) =
      joinLines (second.flatMap fun case => "" :: caseLines case) ++ ("\x7d);" ++ more)) :
    first.map TestCase.told = second.map TestCase.told := by
  have hone : ∀ one ∈ first, ∀ other ∈ second, ∀ rest more,
      joinLines ("" :: caseLines one) ++ rest = joinLines ("" :: caseLines other) ++ more →
        one.told = other.told ∧ rest = more := by
    intro one hone other hother rest more heq
    simp only [joinLines_cons, String.append_assoc, String.append_right_inj] at heq
    exact case_inj (hfirst one hone) (hsecond other hother) heq
  have hend : ∀ (case : TestCase) after rest,
      joinLines ("" :: caseLines case) ++ after ≠ "\x7d);" ++ rest := by
    intro case after rest
    simp only [joinLines_cons, String.append_assoc]
    exact append_ne_of_apart rfl
  exact (series_inj hone (hend · · rest) (hend · · more) h).1

/-- A script tells what its suite tests: suites with one script differ at most in the name of its
file, in white space of free text, in the closers of comments, in where an address is cut in two and
in what completes the file name of a screenshot. -/
theorem told_of_assemble_eq (first second : Suite) (generatedAt : Int) (hfirst : first.CodeFree)
    (hsecond : second.CodeFree) (h : assemble first generatedAt = assemble second generatedAt) :
    first.describeTitle = second.describeTitle ∧ first.category = second.category ∧
      joinUrl first.baseUrl first.initialPath = joinUrl second.baseUrl second.initialPath ∧
      commentText first.featureName = commentText second.featureName ∧
      first.testCases.map TestCase.told = second.testCases.map TestCase.told := by
  obtain ⟨hsetup, hsteps⟩ := hfirst
  obtain ⟨hotherSetup, hotherSteps⟩ := hsecond
  simp only [assemble, scriptLines, headerLines, hookLines, setupLines, hsetup, hotherSetup,
    joinLines_append, joinLines_cons, withFeed, String.append_assoc, String.append_right_inj] at h
  -- the header names the title in a comment, where only its words can be read
  obtain ⟨-, hheader⟩ := line_inj (feed_not_mem_commentText _) (feed_not_mem_commentText _) h
  simp only [String.append_right_inj] at hheader
  obtain ⟨hlabel, hheader⟩ := line_inj (feed_not_mem_label _) (feed_not_mem_label _) hheader
  simp only [String.append_right_inj] at hheader
  obtain ⟨hfeature, hblock⟩ :=
    line_inj (feed_not_mem_commentText _) (feed_not_mem_commentText _) hheader
  simp only [String.append_right_inj] at hblock
  obtain ⟨htitle, hhook⟩ := quote_inj hblock
  simp only [String.append_right_inj] at hhook
  obtain ⟨hurl, hcases⟩ := quote_inj hhook
  simp only [String.append_right_inj] at hcases
  exact ⟨htitle, Category.label_inj hlabel, hurl, hfeature, cases_inj hsteps hotherSteps hcases⟩

def spacedSuite : Suite :=
  { featureName := " Sign \n in */ ", fileBaseName := "a", baseUrl := "http://a.b//"
    category := .navigation, describeTitle := "Sign in", initialPath := "login"
    additionalSetup := none
    testCases :=
      [{ title := "it's", objective := "open\tit"
         steps :=
          [⟨"look ", .verify (.hasText ⟨"button", ""⟩ "');\n")⟩, ⟨"keep", .screenshot "page"⟩] }] }

def neatSuite : Suite :=
  { featureName := "Sign in * /", fileBaseName := "b", baseUrl := "http://a.b"
    category := .navigation, describeTitle := "Sign in", initialPath := "/login"
    additionalSetup := none
    testCases :=
      [{ title := "it's", objective := "open it"
         steps :=
          [⟨"look", .verify (.hasText ⟨"button", ""⟩ "');\n")⟩,
           ⟨"keep", .screenshot "page.png"⟩] }] }

theorem told_of_assemble_eq_spaced :
    (spacedSuite.CodeFree ∧ neatSuite.CodeFree ∧
        assemble spacedSuite 0 = assemble neatSuite 0) ∧
      spacedSuite ≠ neatSuite ∧
      spacedSuite.testCases.map TestCase.told = neatSuite.testCases.map TestCase.told := by
  have hspaced : spacedSuite.CodeFree := by decide
  have hneat : neatSuite.CodeFree := by decide
  have hlines : scriptLines spacedSuite 0 = scriptLines neatSuite 0 := by decide +kernel
  have hscript : assemble spacedSuite 0 = assemble neatSuite 0 := congrArg joinLines hlines
  obtain ⟨-, -, -, -, htold⟩ := told_of_assemble_eq spacedSuite neatSuite 0 hspaced hneat hscript
  exact ⟨⟨hspaced, hneat, hscript⟩, by decide, htold⟩

end Script

end SuiteScribe

namespace SuiteScribe.Script

open Text

/-! What is left of free text in a comment: all of it but its white space. -/

def nonBlank (text : List Char) : List Char :=
  text.filter (!isBlank ·)

theorem nonBlank_cons_blank {c : Char} (h : isBlank c = true) (text : List Char) :
    nonBlank (c :: text) = nonBlank text := by
  simp [nonBlank, h]

theorem nonBlank_cons {c : Char} (h : isBlank c = false) (text : List Char) :
    nonBlank (c :: text) = c :: nonBlank text := by
  simp [nonBlank, h]

theorem nonBlank_append (first second : List Char) :
    nonBlank (first ++ second) = nonBlank first ++ nonBlank second :=
  List.filter_append first second

theorem nonBlank_nonBlank (text : List Char) : nonBlank (nonBlank text) = nonBlank text := by
  simp [nonBlank]

theorem nonBlank_intercalate (parts : List (List Char)) :
    nonBlank ([' '].intercalate parts) = nonBlank parts.flatten := by
  have hspace : nonBlank [' '] = [] := by decide
  induction parts with
  | nil => rfl
  | cons part parts ih =>
      cases parts with
      | nil => simp
      | cons next parts =>
          rw [List.intercalate_cons_cons, List.flatten_cons, nonBlank_append, nonBlank_append,
            nonBlank_append, ih, hspace, List.append_nil]

theorem nonBlank_singleLine (text : String) :
    nonBlank (singleLine text).toList = nonBlank text.toList := by
  rw [toList_singleLine, singleLineChars, nonBlank_intercalate, flatten_words]
  exact nonBlank_nonBlank text.toList

theorem nonBlank_splitClosers (text : List Char) :
    nonBlank (splitClosers text) = nonBlank text := by
  fun_induction splitClosers text with
  | case1 text ih =>
      have hspace : isBlank ' ' = true := by decide
      have hstar : isBlank '*' = false := by decide
      have hslash : isBlank '/' = false := by decide
      rw [nonBlank_cons hstar, nonBlank_cons_blank hspace, nonBlank_cons hslash,
        nonBlank_cons hstar, nonBlank_cons hslash, ih]
  | case2 c text _ ih =>
      change nonBlank ([c] ++ splitClosers text) = nonBlank ([c] ++ text)
      rw [nonBlank_append, nonBlank_append, ih]
  | case3 => rfl

theorem nonBlank_commentText (text : String) :
    nonBlank (commentText text).toList = nonBlank text.toList := by
  rw [toList_commentText, nonBlank_splitClosers, ← toList_singleLine, nonBlank_singleLine]

/-! Where a line of a comment may end. -/

def terminators (text : String) : List Char :=
  text.toList.filter isLineTerminator

@[simp] theorem terminators_append (first second : String) :
    terminators (first ++ second) = terminators first ++ terminators second := by
  simp [terminators]

theorem isBlank_of_isLineTerminator {c : Char} (h : isLineTerminator c = true) :
    isBlank c = true ∧ c ≠ ' ' := by
  simp only [isLineTerminator, isLineBreak, Bool.or_eq_true, beq_iff_eq] at h
  obtain ((rfl | rfl) | rfl) | rfl := h <;> decide

theorem terminators_eq_nil {text : String}
    (h : ∀ c ∈ text.toList, c = ' ' ∨ isBlank c = false) : terminators text = [] := by
  rw [terminators, List.filter_eq_nil_iff]
  intro c hc hends
  obtain ⟨hblank, hspace⟩ := isBlank_of_isLineTerminator hends
  rcases h c hc with heq | hfull
  · exact hspace heq
  · exact Bool.false_ne_true (hfull.symm.trans hblank)

theorem terminators_singleLine (text : String) : terminators (singleLine text) = [] := by
  apply terminators_eq_nil
  rw [toList_singleLine]
  exact fun c => mem_singleLineChars

theorem terminators_commentText (text : String) : terminators (commentText text) = [] := by
  apply terminators_eq_nil
  rw [toList_commentText]
  intro c hc
  rcases mem_splitClosers hc with hline | hspace
  · exact mem_singleLineChars hline
  · exact .inl hspace

theorem terminators_padded (width n : Nat) : terminators (padded width n) = [] := by
  apply terminators_eq_nil
  rw [padded, String.toList_append, String.toList_ofList, toList_toString]
  intro c hc
  rcases List.mem_append.mp hc with hzero | hdigit
  · rw [(List.mem_replicate.mp hzero).2]
    decide
  · exact .inr (isBlank_of_isDigit (isDigit_of_mem_decimal hdigit))

theorem terminators_yearText (year : Int) : terminators (yearText year) = [] := by
  have hpadded := terminators_padded 4 year.natAbs
  rw [yearText]
  split
  · rw [terminators_append, hpadded]
    rfl
  · split
    · exact hpadded
    · rw [terminators_append, hpadded]
      rfl

theorem terminators_timestamp (seconds : Int) : terminators (timestamp seconds) = [] := by
  simp only [timestamp, terminators_append, terminators_yearText, terminators_padded]
  rfl

theorem terminators_label (category : Category) : terminators category.label = [] := by
  cases category <;> decide

theorem terminators_joinLines (lines : List String) (h : ∀ line ∈ lines, terminators line = []) :
    terminators (joinLines lines) = List.replicate lines.length '\n' := by
  induction lines with
  | nil => rfl
  | cons line lines ih =>
      rw [List.forall_mem_cons] at h
      have hfeed : terminators "\n" = ['\n'] := by decide
      rw [joinLines_cons, withFeed, terminators_append, terminators_append, h.1, ih h.2, hfeed]
      rfl

/-! How often a text closes a block comment. -/

def closers : List Char → Nat
  | [] => 0
  | c :: rest => (if c = '*' ∧ rest.head? = some '/' then 1 else 0) + closers rest

theorem closers_cons {c : Char} (h : c ≠ '*') (rest : List Char) :
    closers (c :: rest) = closers rest := by
  simp [closers, h]

theorem closers_of_not_mem {text : List Char} (h : '*' ∉ text) : closers text = 0 := by
  induction text with
  | nil => rfl
  | cons c rest ih =>
      rw [List.mem_cons, not_or] at h
      rw [closers_cons (Ne.symm h.1), ih h.2]

/-- What stands between two texts keeps them from closing a comment together. -/
theorem closers_append_cons (first : List Char) {between : Char} (hstar : between ≠ '*')
    (hslash : between ≠ '/') (second : List Char) :
    closers (first ++ between :: second) = closers first + closers second := by
  induction first with
  | nil => simp [closers, hstar]
  | cons c first ih =>
      have hnext : (first ++ between :: second).head? = some '/' ↔ first.head? = some '/' := by
        cases first <;> simp [hslash]
      rw [List.cons_append, closers, closers, ih, Nat.add_assoc]
      simp only [hnext]

theorem head?_splitClosers (text : List Char) : (splitClosers text).head? = text.head? := by
  cases text with
  | nil => rfl
  | cons c rest =>
      obtain ⟨more, hmore⟩ := splitClosers_cons c rest
      rw [hmore, List.head?_cons, List.head?_cons]

theorem closers_splitClosers (text : List Char) : closers (splitClosers text) = 0 := by
  fun_induction splitClosers text with
  | case1 text ih => simpa [closers] using ih
  | case2 c text hopen ih =>
      have hapart : ¬(c = '*' ∧ text.head? = some '/') := by
        rintro ⟨rfl, hhead⟩
        obtain ⟨rest, rfl⟩ := List.head?_eq_some_iff.mp hhead
        exact hopen rest rfl rfl
      rw [closers, head?_splitClosers, if_neg hapart, ih]
  | case3 => rfl

theorem closers_joinLines_append {lines : List String} (h : ∀ line ∈ lines, closers line.toList = 0)
    (more : List String) :
    closers (joinLines (lines ++ more)).toList = closers (joinLines more).toList := by
  induction lines with
  | nil => rfl
  | cons line lines ih =>
      rw [List.forall_mem_cons] at h
      rw [List.cons_append, joinLines_cons, withFeed, String.toList_append, String.toList_append,
        List.append_assoc]
      calc
        closers (line.toList ++ '\n' :: (joinLines (lines ++ more)).toList) =
            closers line.toList + closers (joinLines (lines ++ more)).toList :=
          closers_append_cons _ (by decide) (by decide) _
        _ = closers (joinLines more).toList := by rw [h.1, ih h.2, Nat.zero_add]

theorem closers_line {opening text : String} (hopening : closers opening.toList = 0)
    (hspace : opening.toList.getLast? = some ' ') (htext : closers text.toList = 0) :
    closers (opening ++ text).toList = 0 := by
  obtain ⟨front, hfront⟩ := List.getLast?_eq_some_iff.mp hspace
  have hapart : ∀ second, closers (front ++ ' ' :: second) = closers front + closers second :=
    closers_append_cons front (by decide) (by decide)
  rw [hfront, hapart] at hopening
  rw [String.toList_append, hfront, List.append_assoc, List.singleton_append, hapart, htext]
  exact hopening

/-! The header comment of a script. -/

def headerComment (suite : Suite) (generatedAt : Int) : String :=
  joinLines (headerLines suite generatedAt)

theorem closers_commentText (text : String) : closers (commentText text).toList = 0 := by
  rw [toList_commentText]
  exact closers_splitClosers _

theorem closers_headerComment (suite : Suite) (generatedAt : Int) :
    closers (headerComment suite generatedAt).toList = 1 := by
  have htitle : closers (" * " ++ commentText suite.describeTitle).toList = 0 :=
    closers_line (by decide) (by decide) (closers_commentText _)
  have hcategory : closers (" * Category: " ++ suite.category.label).toList = 0 :=
    closers_line (by decide) (by decide) (closers_of_not_mem (star_not_mem_label _))
  have hfeature : closers (" * Feature: " ++ commentText suite.featureName).toList = 0 :=
    closers_line (by decide) (by decide) (closers_commentText _)
  have htime : closers (" * Generated: " ++ timestamp generatedAt).toList = 0 :=
    closers_line (by decide) (by decide) (closers_of_not_mem (star_not_mem_timestamp _))
  rw [headerComment, headerLines_eq, closers_joinLines_append]
  · decide
  · simp only [List.forall_mem_cons]
    exact ⟨by decide, htitle, by decide, hcategory, hfeature, htime, List.forall_mem_nil _⟩

theorem terminators_headerLines (suite : Suite) (generatedAt : Int) :
    ∀ line ∈ headerLines suite generatedAt, terminators line = [] := by
  simp only [headerLines, List.forall_mem_cons, terminators_append, terminators_commentText,
    terminators_label, terminators_timestamp, List.append_nil]
  exact ⟨rfl, rfl, rfl, rfl, rfl, rfl, rfl, List.forall_mem_nil _⟩

/-- Free text stays in its comment. The header comment has seven lines and is closed by the last of
them only; neither it nor the comment of a step or of an objective ends a line within free text. And
of the free text nothing is lost but white space. -/
theorem comments_hold_text (suite : Suite) (generatedAt : Int) :
    (closers (headerComment suite generatedAt).toList = 1 ∧
      terminators (headerComment suite generatedAt) = List.replicate 7 '\n' ∧
      ∃ title category feature time,
        headerComment suite generatedAt =
          joinLines ["/**", " * " ++ title, " *", category, " * Feature: " ++ feature, time,
            " */"] ∧
        nonBlank title.toList = nonBlank suite.describeTitle.toList ∧
        nonBlank feature.toList = nonBlank suite.featureName.toList) ∧
      (∀ step : Step, ∃ text,
        stepLines step = (stepIndent ++ "// " ++ text) :: actionLines step.action ∧
        terminators (stepIndent ++ "// " ++ text) = [] ∧
        nonBlank text.toList = nonBlank step.description.toList) ∧
      ∀ case : TestCase, ∃ text,
        (caseLines case)[1]? = some (level ++ level ++ "// Objective: " ++ text) ∧
        terminators (level ++ level ++ "// Objective: " ++ text) = [] ∧
        nonBlank text.toList = nonBlank case.objective.toList := by
  refine ⟨⟨closers_headerComment suite generatedAt, ?_, ?_⟩, fun step => ?_, fun case => ?_⟩
  · exact terminators_joinLines _ (terminators_headerLines suite generatedAt)
  · exact ⟨_, _, _, _, rfl, nonBlank_commentText _, nonBlank_commentText _⟩
  · refine ⟨singleLine step.description, rfl, ?_, nonBlank_singleLine _⟩
    simp only [terminators_append, terminators_singleLine]
    rfl
  · refine ⟨singleLine case.objective, rfl, ?_, nonBlank_singleLine _⟩
    simp only [terminators_append, terminators_singleLine]
    rfl

end SuiteScribe.Script
