import SuiteScribe.Proofs.Answers.Supply
import SuiteScribe.Proofs.Text

namespace SuiteScribe

open Answers Interview Text

theorem Outlet.print_within {outlet next : Outlet} {limited : Prop} {text : String}
    {result : Except Fault Unit} (hroom : outlet.room = none ∨ limited)
    (hprint : outlet.print text = (result, next)) :
    (limited ∧ ∃ fault, result = .error fault) ∨
      (result = .ok () ∧ (next.room = none ∨ limited)) := by
  rcases hroom with hroom | hlimited
  · obtain ⟨other, hprinted, hother⟩ := Outlet.print_of_room hroom text
    cases hprint.symm.trans hprinted
    exact .inr ⟨rfl, .inl hother⟩
  · cases result with
    | error fault => exact .inl ⟨hlimited, fault, rfl⟩
    | ok _ => exact .inr ⟨rfl, .inr hlimited⟩

/-- A failure of this kind breaks an operation off only because the output takes no more. -/
def FullOutlet (failure : Failure) : Prop :=
  ∀ fault, failure = .terminal fault → fault = .outputFull

theorem FullOutlet.of_print {outlet next : Outlet} {text : String} {fault : Fault}
    (h : outlet.print text = (.error fault, next)) : FullOutlet (.terminal fault) := by
  rintro _ ⟨⟩
  cases hroom : outlet.room with
  | none =>
      obtain ⟨_, hprinted, -⟩ := Outlet.print_of_room hroom text
      cases h.symm.trans hprinted
  | some room =>
      simp only [Outlet.print, Outlet.push, hroom, Prod.mk.injEq] at h
      split at h
      · cases h.1
      · simpa using h.1.symm

namespace Terminal

/-! Answers typed at a terminal, one a line. A line ends in a line feed, perhaps with a carriage
return in front of it; only a last line that is not empty may do without. -/

inductive Ending
  | feed
  | returnFeed

/-- What stands in front of the line feed. -/
def Ending.lead : Ending → String
  | feed => ""
  | returnFeed => "\r"

def Ending.text (ending : Ending) : String :=
  ending.lead ++ "\n"

inductive Typed : List String → Bytes → Prop
  | nothing : Typed [] []
  | unended {text : String} (h : text ≠ "") : Typed [text] (encode text)
  | line (text : String) (ending : Ending) {answers : List String} {input : Bytes}
      (h : Typed answers input) : Typed (text :: answers) (encode (text ++ ending.text) ++ input)

/-- An answer with a line feed inside could not be typed on one line. -/
def OnOneLine (answers : List String) : Prop :=
  ∀ text ∈ answers, '\n' ∉ text.toList

theorem OnOneLine.tail {answers : List String} (h : OnOneLine answers) : OnOneLine answers.tail :=
  fun text htext => h text (List.mem_of_mem_tail htext)

/-! A typed line is read as it was typed, and its ending is trimmed off. -/

theorem firstLine_append {line : Bytes} (h : lineFeed ∉ line) (rest : Bytes) :
    firstLine (line ++ lineFeed :: rest) = line ∧
      afterFirstLine (line ++ lineFeed :: rest) = rest := by
  have hline : ∀ byte ∈ line, (byte != lineFeed) = true := by
    intro byte hbyte
    simpa using ne_of_mem_of_not_mem hbyte h
  rw [firstLine, afterFirstLine, List.takeWhile_append_of_pos hline,
    List.dropWhile_append_of_pos hline]
  simp

theorem firstLine_unended {line : Bytes} (h : lineFeed ∉ line) :
    firstLine line = line ∧ afterFirstLine line = [] := by
  have hline : ∀ byte ∈ line, (byte != lineFeed) = true := by
    intro byte hbyte
    simpa using ne_of_mem_of_not_mem hbyte h
  have hall : line.dropWhile (· != lineFeed) = [] := List.dropWhile_eq_nil_iff.mpr hline
  rw [firstLine, afterFirstLine, hall, List.takeWhile_eq_self_iff.mpr hline]
  exact ⟨rfl, rfl⟩

theorem encode_ending (text : String) (ending : Ending) :
    encode (text ++ ending.text) = encode (text ++ ending.lead) ++ [lineFeed] := by
  rw [Ending.text, ← String.append_assoc, encode_append]
  rfl

theorem feed_not_mem_lead {text : String} (h : '\n' ∉ text.toList) (ending : Ending) :
    lineFeed ∉ encode (text ++ ending.lead) := by
  apply feed_not_mem_encode
  cases ending <;> simp [Ending.lead, h]

theorem trimmed_lead (text : String) (ending : Ending) :
    trimmed (text ++ ending.lead) = trimmed text := by
  cases ending with
  | feed => rw [Ending.lead, String.append_empty]
  | returnFeed =>
      rw [trimmed, Ending.lead, String.toList_append]
      exact congrArg String.ofList (trim_concat_blank text.toList (by decide))

theorem answerLine_of_line {source : Terminal} (hne : source.input ≠ []) {line : String}
    (hline : firstLine source.input = encode line) (label : String) :
    source.answerLine label =
      (.ok (trimmed line), { source with input := afterFirstLine source.input }) := by
  rw [answerLine, if_neg (by simpa using hne), hline]
  simp only [decode?_encode]

/-- The answers come one by one, and after the last one the input is closed. -/
theorem answerLine_typed {answers : List String} {source : Terminal}
    (h : Typed answers source.input) (hlines : OnOneLine answers) (label : String) :
    ∃ rest, source.answerLine label = (reply label answers, { source with input := rest }) ∧
      Typed answers.tail rest := by
  rcases source with ⟨input, outlet, journal⟩
  dsimp only at h
  cases h with
  | nothing => exact ⟨[], rfl, .nothing⟩
  | @unended text hne =>
      have hfeed : lineFeed ∉ encode text := feed_not_mem_encode (hlines text List.mem_cons_self)
      have hbytes : encode text ≠ [] := fun hnil => hne (encode_inj (hnil.trans rfl))
      obtain ⟨hfirst, hafter⟩ := firstLine_unended hfeed
      refine ⟨[], ?_, .nothing⟩
      rw [answerLine_of_line hbytes hfirst]
      simp only [hafter, reply]
  | @line text ending answers rest htyped =>
      have hfeed := feed_not_mem_lead (hlines text List.mem_cons_self) ending
      obtain ⟨hfirst, hafter⟩ := firstLine_append hfeed rest
      refine ⟨rest, ?_, htyped⟩
      rw [encode_ending, List.append_assoc, List.singleton_append,
        answerLine_of_line (by simp) hfirst]
      simp only [hafter, trimmed_lead, reply]

theorem ask_unprinted {label : String} {source : Terminal} {fault : Fault} {outlet : Outlet}
    (hprint : source.outlet.print (label ++ ": ") = (.error fault, outlet)) :
    Answers.ask label source = (.error (.terminal fault), { source with outlet }) := by
  simp [Answers.ask, ask, hprint]

theorem ask_typed {answers : List String} {label : String} {source : Terminal} {outlet : Outlet}
    (hprint : source.outlet.print (label ++ ": ") = (.ok (), outlet))
    (htyped : Typed answers source.input) (hlines : OnOneLine answers) :
    ∃ input, Answers.ask label source = (reply label answers, { source with outlet, input }) ∧
      Typed answers.tail input := by
  have hafter : Typed answers ({ source with outlet } : Terminal).input := htyped
  obtain ⟨rest, hanswer, hrest⟩ := answerLine_typed hafter hlines label
  exact ⟨rest, by simp [Answers.ask, ask, hprint, hanswer], hrest⟩

theorem say_printed {text : String} {source : Terminal} {result : Except Fault Unit}
    {outlet : Outlet} (hprint : source.outlet.print (text ++ "\n") = (result, outlet)) :
    Answers.say text source = (result.mapError .terminal, { source with outlet }) := by
  cases result <;> simp [Answers.say, say, hprint, Except.mapError]

/-! Only where its output is limited may a terminal break off. -/

def supply (limited : Prop) : Supply Terminal where
  fallible := limited
  offers source answers :=
    (source.outlet.room = none ∨ limited) ∧ Typed answers source.input ∧ OnOneLine answers
  offers_ask label source answers h := by
    obtain ⟨hroom, htyped, hlines⟩ := h
    rcases hprint : source.outlet.print (label ++ ": ") with ⟨result, outlet⟩
    obtain ⟨hlimited, fault, rfl⟩ | ⟨rfl, hnext⟩ := Outlet.print_within hroom hprint
    · rw [ask_unprinted hprint]
      exact .inl ⟨hlimited, fault, rfl⟩
    · obtain ⟨rest, hasked, hrest⟩ := ask_typed hprint htyped hlines
      rw [hasked]
      exact .inr ⟨rfl, hnext, hrest, hlines.tail⟩
  offers_say text source answers h := by
    obtain ⟨hroom, htyped, hlines⟩ := h
    rcases hprint : source.outlet.print (text ++ "\n") with ⟨result, outlet⟩
    rw [say_printed hprint]
    obtain ⟨hlimited, fault, rfl⟩ | ⟨rfl, hnext⟩ := Outlet.print_within hroom hprint
    · exact .inl ⟨hlimited, fault, rfl⟩
    · exact .inr ⟨rfl, hnext, htyped, hlines⟩
  offers_note notice source answers h := h

/-! On typed input nothing but a full outlet breaks a terminal off. -/

def Readable (source : Terminal) : Prop :=
  ∃ answers, Typed answers source.input ∧ OnOneLine answers

theorem preserved_readable : Preserved Readable where
  ask label source h := by
    obtain ⟨answers, htyped, hlines⟩ := h
    rcases hprint : source.outlet.print (label ++ ": ") with ⟨_ | _, outlet⟩
    · rw [ask_unprinted hprint]
      exact ⟨answers, htyped, hlines⟩
    · obtain ⟨rest, hasked, hrest⟩ := ask_typed hprint htyped hlines
      rw [hasked]
      exact ⟨answers.tail, hrest, hlines.tail⟩
  say text source h := by
    have hinput : (Answers.say text source).2.input = source.input := input_say text source
    rwa [Readable, hinput]
  note notice source h := h

theorem confined_readable : Confined Readable FullOutlet where
  preserved := preserved_readable
  ask label source failure h hfailed := by
    obtain ⟨answers, htyped, hlines⟩ := h
    rcases hprint : source.outlet.print (label ++ ": ") with ⟨fault | _, outlet⟩
    · rw [ask_unprinted hprint] at hfailed
      cases hfailed
      exact FullOutlet.of_print hprint
    · obtain ⟨rest, hasked, -⟩ := ask_typed hprint htyped hlines
      rw [hasked] at hfailed
      cases answers with
      | nil =>
          cases hfailed
          exact nofun
      | cons text answers => cases hfailed
  say text source failure h hfailed := by
    rcases hprint : source.outlet.print (text ++ "\n") with ⟨fault | _, outlet⟩
    · rw [say_printed hprint] at hfailed
      cases hfailed
      exact FullOutlet.of_print hprint
    · rw [say_printed hprint] at hfailed
      cases hfailed

end Terminal

theorem Replay.confined : Confined (fun _ : Replay => True) FullOutlet where
  preserved := ⟨fun _ _ _ => trivial, fun _ _ _ => trivial, fun _ _ _ => trivial⟩
  ask label source failure h hfailed := by
    cases hevents : source.events with
    | nil =>
        simp only [Answers.ask, ask, hevents, Except.error.injEq] at hfailed
        exact hfailed ▸ nofun
    | cons event events =>
        rcases hprint : source.outlet.print (label ++ ": " ++ event.answer ++ "\n")
          with ⟨fault | _, outlet⟩
        · simp only [Answers.ask, ask, hevents, hprint, Except.error.injEq] at hfailed
          exact hfailed ▸ FullOutlet.of_print hprint
        · simp [Answers.ask, ask, hevents, hprint] at hfailed
  say text source failure h hfailed := by
    rcases hprint : source.outlet.print (text ++ "\n") with ⟨fault | _, outlet⟩
    · simp only [Answers.say, say, hprint, Except.error.injEq] at hfailed
      exact hfailed ▸ FullOutlet.of_print hprint
    · simp [Answers.say, say, hprint] at hfailed

/-- A run that no full output broke off goes as it does over the answers that the source
supplies. -/
theorem Answers.Supply.converse_of_room [Answers σ] (supply : Supply σ) {holds : σ → Prop}
    (confined : Confined holds FullOutlet) (guide : Guide τ α) (turn : Turn τ α) {source : σ}
    (hholds : holds source) {answers : List String} (hoffers : supply.offers source answers)
    (hroom : ¬ supply.fallible ∨ (converse guide turn source).1 ≠ .error (.terminal .outputFull)) :
    (converse guide turn source).1 = (hold guide turn answers).outcome guide ∧
      prompts guide turn source = (hold guide turn answers).prompts := by
  obtain ⟨hfallible, fault, hbroken⟩ | ⟨hresult, hprompts, -⟩ :=
    supply.converse_eq_hold guide turn hoffers
  · have hfull : fault = .outputFull := confined.converse guide turn hholds hbroken fault rfl
    rw [hbroken, hfull] at hroom
    exact absurd hfallible (hroom.resolve_right fun hne => hne rfl)
  · exact ⟨hresult, hprompts⟩

namespace Interview.SuiteQuestion

/-- From its opening on, with the banner or without it, an interview comes to the same end on the
same answers, whether they are scripted, typed at a terminal or replayed from whatever events they
were recorded in: the same suite, or input that closes under the same prompt. Only an output that
takes no more can break one of the runs off. -/
theorem sources_agree (options : Options) (opening : SuiteTurn) {answers : List String}
    (hlines : Terminal.OnOneLine answers) (terminal : Terminal)
    (htyped : Terminal.Typed answers terminal.input) (replay : Replay)
    (hrecorded : replay.recordedAnswers = answers)
    (hterminal : terminal.outlet.room = none ∨
      (converse (guide options) opening terminal).1 ≠ .error (.terminal .outputFull))
    (hreplay : replay.outlet.room = none ∨
      (converse (guide options) opening replay).1 ≠ .error (.terminal .outputFull)) :
    let scripted : Scripted := { answers }
    let result := (converse (guide options) opening scripted).1
    Settled result ∧
      (converse (guide options) opening terminal).1 = result ∧
      (converse (guide options) opening replay).1 = result ∧
      prompts (guide options) opening terminal = prompts (guide options) opening scripted ∧
      prompts (guide options) opening replay = prompts (guide options) opening scripted := by
  intro scripted result
  obtain ⟨hscripted, hasked, -⟩ := Scripted.converse_eq_hold (guide options) opening scripted
  obtain ⟨htypedResult, htypedPrompts⟩ :=
    (Terminal.supply (terminal.outlet.room ≠ none)).converse_of_room Terminal.confined_readable
      (guide options) opening ⟨answers, htyped, hlines⟩ ⟨Classical.em _, htyped, hlines⟩
      (hterminal.imp_left not_not_intro)
  obtain ⟨hreplayResult, hreplayPrompts⟩ :=
    (Replay.supply (replay.outlet.room ≠ none)).converse_of_room Replay.confined
      (guide options) opening trivial ⟨Classical.em _, hrecorded⟩ (hreplay.imp_left not_not_intro)
  exact ⟨Scripted.settled_converse _ _ _, htypedResult.trans hscripted.symm,
    hreplayResult.trans hscripted.symm, htypedPrompts.trans hasked.symm,
    hreplayPrompts.trans hasked.symm⟩

/-- Lines that end in either way, a blank one that picks no category, and an end without a feed. -/
def typedAnswers : List String :=
  [" Login", "login", "http://localhost:3000", "  ", "Login page", "/login", "", "done"]

def typedInput : Bytes :=
  encode " Login\r\nlogin\nhttp://localhost:3000\r\n  \nLogin page\n/login\n\r\ndone"

def typedSuite : Suite :=
  { featureName := "Login", fileBaseName := "login", baseUrl := "http://localhost:3000"
    category := .functional, describeTitle := "Login page", initialPath := "/login"
    additionalSetup := none, testCases := [] }

theorem sources_agree_typed :
    let events := typedAnswers.map fun answer => ({ seq := 7, prompt := "?", answer } : Event)
    Terminal.OnOneLine typedAnswers ∧ Terminal.Typed typedAnswers typedInput ∧
      (converse (guide {}) session ({ input := typedInput } : Terminal)).1 = .ok typedSuite ∧
      (converse (guide {}) session ({ events } : Replay)).1 = .ok typedSuite := by
  intro events
  have hlines : Terminal.OnOneLine typedAnswers := by
    rw [Terminal.OnOneLine]
    decide
  have htyped : Terminal.Typed typedAnswers typedInput := by
    have hlast : Terminal.Typed ["done"] (encode "done") := .unended (by decide)
    have hall :=
      Terminal.Typed.line " Login" .returnFeed (.line "login" .feed
        (.line "http://localhost:3000" .returnFeed (.line "  " .feed
          (.line "Login page" .feed (.line "/login" .feed (.line "" .returnFeed hlast))))))
    simp only [← encode_append] at hall
    exact hall
  have hscripted :
      (converse (guide {}) session ({ answers := typedAnswers } : Scripted)).1 = .ok typedSuite :=
    (Scripted.converse_eq_hold (guide {}) session { answers := typedAnswers }).1.trans rfl
  obtain ⟨-, hterminal, hreplay, -⟩ :=
    sources_agree {} session hlines { input := typedInput } htyped { events } rfl (.inl rfl)
      (.inl rfl)
  exact ⟨hlines, htyped, hterminal.trans hscripted, hreplay.trans hscripted⟩

end Interview.SuiteQuestion

end SuiteScribe
