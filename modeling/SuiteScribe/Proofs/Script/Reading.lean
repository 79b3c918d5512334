import Mathlib.Data.List.Basic
import SuiteScribe.Script

namespace SuiteScribe.Script

/-! Reading a script back. A reader takes what it understands off the front of a text and leaves the
rest; it recovers a value from its text if it does so whatever follows. -/

abbrev Reader (α : Type) := StateT (List Char) Option α

def Recovers (reader : Reader α) (text : String) (value : α) : Prop :=
  ∀ rest, reader (text.toList ++ rest) = some (value, rest)

namespace Recovers

theorem bind {reader : Reader α} {next : α → Reader β} {text more : String} {value : α}
    {result : β} (h : Recovers reader text value) (hnext : Recovers (next value) more result) :
    Recovers (reader >>= next) (text ++ more) result := by
  intro rest
  change (reader ((text ++ more).toList ++ rest)).bind (fun read => next read.1 read.2) = _
  rw [String.toList_append, List.append_assoc, h, Option.bind_some, hnext]

theorem done {value : α} : Recovers (return value) "" value := fun _ => rfl

/-- A reader whose last piece tells nothing more. -/
theorem close {reader : Reader Unit} {text : String} (h : Recovers reader text ()) (result : β) :
    Recovers (do reader; return result) text result := by
  intro rest
  change (reader (text.toList ++ rest)).bind (fun read => some (result, read.2)) = _
  rw [h, Option.bind_some]

/-- Texts from which a reader recovers values differ as soon as the values do. -/
theorem eq_of_append_eq {reader : Reader α} {first second rest more : String} {value other : α}
    (hfirst : Recovers reader first value) (hsecond : Recovers reader second other)
    (h : first ++ rest = second ++ more) : value = other ∧ rest = more := by
  have hread := congrArg (fun text => reader text.toList) h
  simp only [String.toList_append, hfirst rest.toList, hsecond more.toList, Option.some.injEq,
    Prod.mk.injEq] at hread
  exact ⟨hread.1, String.toList_inj.mp hread.2⟩

end Recovers

/-! Fixed text. -/

def exactly (text : String) : Reader Unit := fun source =>
  (source.dropPrefix? text.toList).map fun rest => ((), rest)

theorem recovers_exactly (text : String) : Recovers (exactly text) text () := by
  intro rest
  rw [exactly, List.dropPrefix?_append_of_beq rest (beq_self_eq_true _)]
  rfl

/-- The text up to the end of its line. -/
def line : Reader String := fun source =>
  match source.dropWhile (· != '\n') with
  | [] => none
  | _ :: rest => some (String.ofList (source.takeWhile (· != '\n')), rest)

theorem recovers_line {text : String} (h : '\n' ∉ text.toList) :
    Recovers line (text ++ "\n") text := by
  intro rest
  have hfeedless : ∀ c ∈ text.toList, (c != '\n') = true := fun c hc =>
    bne_iff_ne.mpr fun heq => h (heq ▸ hc)
  have hsource : (text ++ "\n").toList ++ rest = text.toList ++ '\n' :: rest := by
    simp
  rw [hsource, line, List.dropWhile_append_of_pos hfeedless,
    List.takeWhile_append_of_pos hfeedless]
  simp

/-! Literals. A backslash and the character after it stand for one character, and the first mark
without a backslash ends the literal. -/

def untilMark (mark : Char) (meaning : Char → Char) : List Char → Option (List Char × List Char)
  | [] => none
  | '\\' :: c :: rest =>
      (untilMark mark meaning rest).map fun (text, left) => (meaning c :: text, left)
  | c :: rest =>
      if c = mark then some ([], rest)
      else (untilMark mark meaning rest).map fun (text, left) => (c :: text, left)

def literal (mark : Char) (meaning : Char → Char) : Reader String
  | [] => none
  | c :: rest =>
      if c = mark then
        (untilMark mark meaning rest).map fun (text, left) => (String.ofList text, left)
      else none

/-- Each character is written as itself, unless it could be misread, or behind a backslash. -/
def Escapes (escape : Char → List Char) (mark : Char) (meaning : Char → Char) : Prop :=
  ∀ c, (escape c = [c] ∧ c ≠ mark ∧ c ≠ '\\') ∨ ∃ d, escape c = ['\\', d] ∧ meaning d = c

section

variable {escape : Char → List Char} {mark : Char} {meaning : Char → Char}
  (hescapes : Escapes escape mark meaning) (hmark : mark ≠ '\\')
include hescapes hmark

theorem untilMark_escapes (value rest : List Char) :
    untilMark mark meaning (value.flatMap escape ++ mark :: rest) = some (value, rest) := by
  induction value with
  | nil => simp [untilMark, hmark]
  | cons c value ih =>
      rw [List.flatMap_cons, List.append_assoc]
      rcases hescapes c with ⟨hplain, hend, hslash⟩ | ⟨d, hescaped, rfl⟩
      · simp [hplain, untilMark, hend, hslash, ih]
      · simp [hescaped, untilMark, ih]

theorem recovers_literal {text value : String}
    (h : text.toList = mark :: value.toList.flatMap escape ++ [mark]) :
    Recovers (literal mark meaning) text value := by
  intro rest
  rw [h, List.cons_append, List.cons_append, List.append_assoc,
    List.singleton_append, literal, if_pos rfl, untilMark_escapes hescapes hmark]
  simp

end

def quotedMeaning : Char → Char
  | 'n' => '\n'
  | 'r' => '\r'
  | 't' => '\t'
  | c => c

theorem escapes_quoted : Escapes escapeQuoted '\'' quotedMeaning := by
  intro c
  unfold escapeQuoted
  split
  · exact .inr ⟨'\\', rfl, rfl⟩
  · exact .inr ⟨'\'', rfl, rfl⟩
  · exact .inr ⟨'n', rfl, rfl⟩
  · exact .inr ⟨'r', rfl, rfl⟩
  · exact .inr ⟨'t', rfl, rfl⟩
  · next hslash hquote _ _ _ => exact .inl ⟨rfl, hquote, hslash⟩

theorem escapes_pattern : Escapes escapePattern '/' id := by
  intro c
  unfold escapePattern
  split
  · exact .inr ⟨c, rfl, rfl⟩
  · next hplain =>
      refine .inl ⟨rfl, ?_, ?_⟩
      · rintro rfl
        exact hplain rfl
      · rintro rfl
        exact hplain rfl

def quoted : Reader String :=
  literal '\'' quotedMeaning

def pattern : Reader String :=
  literal '/' id

theorem recovers_quoted (value : String) : Recovers quoted (quote value) value :=
  recovers_literal escapes_quoted (by decide) (toList_quote value)

theorem recovers_pattern (fragment : String) : Recovers pattern (urlPattern fragment) fragment :=
  recovers_literal escapes_pattern (by decide) (toList_urlPattern fragment)

/-! Forms of text, told apart by how they begin. The first form whose beginning is there is read. -/

def oneOf : List (String × Reader α) → Reader α
  | [], _ => none
  | (opening, reader) :: forms, source =>
      match source.dropPrefix? opening.toList with
      | some rest => reader rest
      | none => oneOf forms source

/-- Neither text begins with the other one. -/
def apart (first second : List Char) : Bool :=
  !first.isPrefixOf second && !second.isPrefixOf first

theorem dropPrefix?_of_apart {first second : List Char} (h : apart first second = true)
    (rest : List Char) : (second ++ rest).dropPrefix? first = none := by
  induction first generalizing second with
  | nil => simp [apart] at h
  | cons c first ih =>
      cases second with
      | nil => simp [apart] at h
      | cons d second =>
          rw [List.cons_append, List.dropPrefix?]
          split
          · next heq => exact ih (by simpa [apart, eq_of_beq heq] using h)
          · rfl

section

variable {opening front text more others : String} {reader : Reader α}
  {forms : List (String × Reader α)} {value : α}

theorem recovers_first (h : Recovers reader more value) :
    Recovers (oneOf ((opening, reader) :: forms)) (opening ++ more) value := by
  intro rest
  rw [oneOf, String.toList_append, List.append_assoc,
    List.dropPrefix?_append_of_beq _ (beq_self_eq_true _)]
  exact h rest

theorem recovers_only : Recovers (oneOf ((text, return value) :: forms)) text value := by
  have hread : Recovers (oneOf ((text, return value) :: forms)) (text ++ "") value :=
    recovers_first .done
  rwa [String.append_empty] at hread

theorem recovers_later (hfront : text = front ++ others)
    (hapart : apart opening.toList front.toList = true) (h : Recovers (oneOf forms) text value) :
    Recovers (oneOf ((opening, reader) :: forms)) text value := by
  intro rest
  have hother : (text.toList ++ rest).dropPrefix? opening.toList = none := by
    rw [hfront, String.toList_append, List.append_assoc, dropPrefix?_of_apart hapart]
  rw [oneOf, hother]
  exact h rest

end

/-! Targets. -/

def targetEnds (role : String) : List (String × Reader Target) :=
  [(")", return ⟨role, ""⟩),
   (", \x7b name: ", do
      let name ← quoted
      exactly " \x7d)"
      return ⟨role, name⟩)]

def target : Reader Target := do
  exactly "page.getByRole("
  let role ← quoted
  oneOf (targetEnds role)

theorem recovers_target (wanted : Target) : Recovers target (locator wanted) wanted := by
  obtain ⟨role, name⟩ := wanted
  have hopening := recovers_exactly "page.getByRole("
  rw [locator]
  split
  · next hempty =>
      obtain rfl := String.isEmpty_iff.mp hempty
      rw [String.append_assoc]
      refine hopening.bind ((recovers_quoted role).bind ?_)
      exact recovers_first .done
  · simp only [String.append_assoc]
    refine hopening.bind ((recovers_quoted role).bind ?_)
    refine recovers_later rfl rfl (recovers_first ((recovers_quoted name).bind ?_))
    exact (recovers_exactly _).close _

/-! Statements. -/

/-- What is done with a target. -/
def uses (wanted : Target) : List (String × Reader Action) :=
  [(".click();", return .click wanted),
   (".fill(", do
      let value ← quoted
      exactly ");"
      return .fill wanted value)]

/-- What is expected of a target. -/
def expectations (wanted : Target) : List (String × Reader Action) :=
  [(").toBeVisible();", return .verify (.visible wanted)),
   (").toContainText(", do
      let expected ← quoted
      exactly ");"
      return .verify (.hasText wanted expected)),
   (").toBeEnabled();", return .verify (.enabled wanted)),
   (").toBeDisabled();", return .verify (.disabled wanted))]

/-- A screenshot is read with the path of its file for a name. -/
def statements : List (String × Reader Action) :=
  [("await page.goto(", do
      let path ← quoted
      exactly ");"
      return .navigate path),
   ("await page.screenshot(\x7b path: ", do
      let path ← quoted
      exactly " \x7d);"
      return .screenshot path),
   ("await expect(page).toHaveURL(", do
      let expected ← pattern
      exactly ");"
      return .verify (.hasUrl expected)),
   ("await expect(", do
      let wanted ← target
      oneOf (expectations wanted)),
   ("await ", do
      let wanted ← target
      oneOf (uses wanted))]

theorem locator_front (wanted : Target) : ∃ more, locator wanted = "page.getByRole(" ++ more := by
  rw [locator]
  split
  · exact ⟨_, String.append_assoc⟩
  · simp only [String.append_assoc]
    exact ⟨_, rfl⟩

theorem recovers_expectation {wanted : Target} {text : String} {action : Action}
    (h : Recovers (oneOf (expectations wanted)) text action) :
    Recovers (oneOf statements) ("await expect(" ++ (locator wanted ++ text)) action := by
  obtain ⟨more, hmore⟩ := locator_front wanted
  have hfront : "await expect(" ++ (locator wanted ++ text) =
      "await expect(page.getByRole(" ++ (more ++ text) := by
    rw [hmore, String.append_assoc, ← String.append_assoc]
    rfl
  have hread : Recovers (target >>= fun wanted => oneOf (expectations wanted))
      (locator wanted ++ text) action := (recovers_target wanted).bind h
  exact recovers_later hfront rfl <| recovers_later hfront rfl <| recovers_later hfront rfl <|
    recovers_first hread

theorem recovers_use {wanted : Target} {text : String} {action : Action}
    (h : Recovers (oneOf (uses wanted)) text action) :
    Recovers (oneOf statements) ("await " ++ (locator wanted ++ text)) action := by
  obtain ⟨more, hmore⟩ := locator_front wanted
  have hfront : "await " ++ (locator wanted ++ text) =
      "await page.getByRole(" ++ (more ++ text) := by
    rw [hmore, String.append_assoc, ← String.append_assoc]
    rfl
  have hread : Recovers (target >>= fun wanted => oneOf (uses wanted))
      (locator wanted ++ text) action := (recovers_target wanted).bind h
  exact recovers_later hfront rfl <| recovers_later hfront rfl <| recovers_later hfront rfl <|
    recovers_later hfront rfl <| recovers_first hread

theorem recovers_assertion (assertion : Assertion) :
    Recovers (oneOf statements) (assertionStatement assertion) (.verify assertion) := by
  have hwhole : ∀ {text : String}, text = text ++ "" := String.append_empty.symm
  unfold assertionStatement
  cases assertion with
  | visible wanted =>
      simp only [String.append_assoc]
      refine recovers_expectation ?_
      exact recovers_only
  | hasText wanted expected =>
      simp only [String.append_assoc]
      refine recovers_expectation (recovers_later rfl rfl (recovers_first ?_))
      exact (recovers_quoted expected).bind ((recovers_exactly _).close _)
  | enabled wanted =>
      simp only [String.append_assoc]
      refine recovers_expectation ?_
      exact recovers_later hwhole rfl <| recovers_later hwhole rfl <| recovers_only
  | disabled wanted =>
      simp only [String.append_assoc]
      refine recovers_expectation ?_
      exact recovers_later hwhole rfl <| recovers_later hwhole rfl <| recovers_later hwhole rfl <|
        recovers_only
  | hasUrl expected =>
      simp only [String.append_assoc]
      refine recovers_later rfl rfl (recovers_later rfl rfl (recovers_first ?_))
      exact (recovers_pattern expected).bind ((recovers_exactly _).close _)

end SuiteScribe.Script

namespace SuiteScribe

open Script

/-- An action as far as its statement tells it: a screenshot by the path of its file. -/
def Action.told : Action → Action
  | .screenshot name => .screenshot (screenshotPath name)
  | action => action

/-- The one line of an action that brings no code of its own. -/
theorem Script.recovers_action {action : Action} (hcustom : action.kind ≠ .custom) :
    ∃ statement, actionLines action = [stepIndent ++ statement] ∧
      Recovers (oneOf statements) statement action.told := by
  cases action with
  | click wanted =>
      refine ⟨_, by simp only [actionLines, String.append_assoc]; rfl, ?_⟩
      exact recovers_use recovers_only
  | fill wanted value =>
      refine ⟨_, by simp only [actionLines, String.append_assoc]; rfl, ?_⟩
      refine recovers_use (recovers_later rfl rfl (recovers_first ?_))
      exact (recovers_quoted value).bind ((recovers_exactly _).close _)
  | verify assertion => exact ⟨_, rfl, recovers_assertion assertion⟩
  | navigate path =>
      refine ⟨_, by simp only [actionLines, String.append_assoc]; rfl, ?_⟩
      exact recovers_first ((recovers_quoted path).bind ((recovers_exactly _).close _))
  | screenshot name =>
      refine ⟨_, by simp only [actionLines, String.append_assoc]; rfl, ?_⟩
      refine recovers_later rfl rfl (recovers_first ?_)
      exact (recovers_quoted _).bind ((recovers_exactly _).close _)
  | custom statement => exact absurd rfl hcustom

end SuiteScribe
