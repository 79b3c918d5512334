import SuiteScribe.Suite.Basic

namespace SuiteScribe

open Text

/-! Numbered menus. An answer selects an option by its number, counted from one, or by its name;
names are compared by their lowercase letters and digits alone. -/

structure Menu (α : Type) where
  title : String
  options : List α
  label : α → String

inductive Choice (α : Type)
  | selected (option : α)
  | unrecognized (text : String)
  | empty
  deriving DecidableEq, Repr

namespace Menu

def optionLines (label : α → String) : Nat → List α → List String
  | _, [] => []
  | number, option :: rest =>
      ("\n  " ++ toString number ++ ") " ++ label option) ::
        optionLines label (number + 1) rest

def render (menu : Menu α) : String :=
  menu.title ++ ":" ++ String.join (optionLines menu.label 1 menu.options)

/-! The number that a numeral stands for: decimal digits after an optional plus sign, below two to
the sixty-fourth. -/

def numeralLimit : Nat := Nat.pow 2 64

def numeralDigits (text : List Char) : List Char :=
  match text with
  | '+' :: digits => digits
  | digits => digits

def number? (text : List Char) : Option Nat :=
  let digits := numeralDigits text
  if digits.isEmpty || !digits.all Char.isDigit then none
  else if decimalValue digits < numeralLimit then some (decimalValue digits)
  else none

def normalize (text : List Char) : List Char :=
  lowercaseAll (text.filter isAlphanumeric)

def byNumber (menu : Menu α) (number : Nat) : Option α :=
  if number = 0 then none else menu.options[number - 1]?

def byName (menu : Menu α) (text : List Char) : Option α :=
  menu.options.find? fun option =>
    normalize (menu.label option).toList == normalize text

def find? (menu : Menu α) (text : List Char) : Option α :=
  match number? text with
  | some number => menu.byNumber number
  | none => menu.byName text

def parse (menu : Menu α) (raw : String) : Choice α :=
  let text := trim raw.toList
  if text.isEmpty then .empty
  else
    match menu.find? text with
    | some option => .selected option
    | none => .unrecognized (String.ofList text)

end Menu

def actionMenu : Menu ActionKind :=
  { title := "Action", options := ActionKind.all, label := ActionKind.label }

def assertionMenu : Menu AssertionKind :=
  { title := "Assertion", options := AssertionKind.all, label := AssertionKind.label }

def categoryMenu : Menu Category :=
  { title := "Test category", options := Category.all, label := Category.label }

end SuiteScribe
