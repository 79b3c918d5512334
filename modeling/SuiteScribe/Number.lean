import SuiteScribe.Text.Basic

namespace SuiteScribe.Number

open Text

/-! Decimal numbers: a coefficient times a power of ten. -/

structure Decimal where
  coefficient : Nat
  exponent : Int
  deriving DecidableEq, Repr

namespace Decimal

/-! Positional text: all digits written out, a point only before decimals. -/

def zeros (count : Nat) : List Char :=
  List.replicate count '0'

def pointed (decimals : Nat) (digits : List Char) : List Char :=
  let filled := zeros (decimals + 1 - digits.length) ++ digits
  let whole := filled.length - decimals
  filled.take whole ++ '.' :: filled.drop whole

def positional (number : Decimal) : List Char :=
  let digits := decimal number.coefficient
  if number.exponent < 0 then pointed (-number.exponent).toNat digits
  else digits ++ zeros number.exponent.toNat

/-! Numerals: digits with an optional point among or around them, and an optional exponent. There
is at least one digit before the exponent and one in it. -/

def exponent? (text : List Char) : Option Int :=
  let signed (negative : Bool) (digits : List Char) : Option Int :=
    if digits.isEmpty || !digits.all Char.isDigit then none
    else
      let size : Int := decimalValue digits
      some (if negative then -size else size)
  match text with
  | '-' :: digits => signed true digits
  | '+' :: digits => signed false digits
  | digits => signed false digits

def scale? (text : List Char) : Option Int :=
  match text with
  | [] => some 0
  | c :: rest => if c == 'e' || c == 'E' then exponent? rest else none

def fraction (text : List Char) : List Char × List Char :=
  match text with
  | '.' :: rest => rest.span Char.isDigit
  | rest => ([], rest)

def ofNumeral? (text : List Char) : Option Decimal :=
  let (whole, rest) := text.span Char.isDigit
  let (decimals, rest) := fraction rest
  if whole.isEmpty && decimals.isEmpty then none
  else
    (scale? rest).map fun scale =>
      { coefficient := decimalValue (whole ++ decimals), exponent := scale - decimals.length }

end Decimal

/-! Floating-point numbers of 64 bits: a mantissa of at most 53 bits times a power of two. The
exponent is the least possible one, so that a mantissa below 53 bits has the least exponent of all
and each number has one form. -/

inductive Binary64
  | finite (negative : Bool) (mantissa : Nat) (exponent : Int)
  | infinite (negative : Bool)
  | nan
  deriving DecidableEq, Repr

namespace Binary64

def precision : Nat := 53

/-! Powers with natural values: a negative exponent counts as zero. -/

def twoPower (exponent : Int) : Nat :=
  Nat.pow 2 exponent.toNat

def tenPower (exponent : Int) : Nat :=
  Nat.pow 10 exponent.toNat

def leastExponent : Int := -1074

def greatestExponent : Int := 971

/-- Equality of values: zeros are equal whatever their sign, and so are all results that are not
numbers. -/
def same : Binary64 → Binary64 → Bool
  | .finite n m q, .finite n' m' q' => m == m' && q == q' && (n == n' || m == 0)
  | .infinite n, .infinite n' => n == n'
  | .nan, .nan => true
  | _, _ => false

/-! Rounding a quotient of natural numbers to the nearest number. A tie goes to the even
mantissa. -/

def roundQuotient (num den : Nat) : Nat :=
  let below := num / den
  let rest := num % den
  if 2 * rest < den then below
  else if den < 2 * rest then below + 1
  else if below % 2 = 0 then below
  else below + 1

/-- The exponent of two of the leading bit of a quotient. -/
def leadingBit (num den : Nat) : Int :=
  let guess : Int := (Nat.log2 num : Int) - Nat.log2 den
  if den * twoPower guess ≤ num * twoPower (-guess) then guess else guess - 1

def ofParts (negative : Bool) (mantissa : Nat) (exponent : Int) : Binary64 :=
  if twoPower precision ≤ mantissa then
    if greatestExponent < exponent + 1 then .infinite negative
    else .finite negative (mantissa / 2) (exponent + 1)
  else if greatestExponent < exponent then .infinite negative
  else .finite negative mantissa exponent

def ofQuotient (negative : Bool) (num den : Nat) : Binary64 :=
  let exponent := max (leadingBit num den - (precision - 1 : Nat)) leastExponent
  ofParts negative
    (roundQuotient (num * twoPower (-exponent)) (den * twoPower exponent)) exponent

/-! Beyond these exponents of ten every number rounds to zero or to infinity. -/

def decimalReach : Int := 400

def ofDecimal (negative : Bool) (number : Decimal) : Binary64 :=
  let size : Int := (Text.decimal number.coefficient).length
  if number.coefficient = 0 then .finite negative 0 leastExponent
  else if number.exponent + size < -decimalReach then .finite negative 0 leastExponent
  else if decimalReach < number.exponent then .infinite negative
  else
    ofQuotient negative (number.coefficient * tenPower number.exponent)
      (tenPower (-number.exponent))

def isFinite : Binary64 → Bool
  | .finite _ _ _ => true
  | _ => false

end Binary64

end SuiteScribe.Number

namespace SuiteScribe.Number.Binary64

/-! The shortest decimal text that reads back as a number. The reals that round to m times a power
of two are an interval around it, which holds its ends exactly if m is even. The coarsest decimal
grid with a point in the interval is taken, and on it the point next to the number; of two equally
near ones the greater. All is counted in quarters of the last place of the mantissa. -/

structure Interval where
  low : Nat
  middle : Nat
  high : Nat
  closed : Bool

/-- Below a power of two the neighbour is only half as far away. -/
def interval (mantissa : Nat) (exponent : Int) : Interval :=
  let narrow := mantissa = twoPower (precision - 1) ∧ leastExponent < exponent
  { low := 4 * mantissa - (if narrow then 1 else 2)
    middle := 4 * mantissa
    high := 4 * mantissa + 2
    closed := mantissa % 2 == 0 }

def below (closed : Bool) (a b : Nat) : Bool :=
  if closed then a ≤ b else a < b

/-- The point of the grid of a power of ten that stands for the interval, if one lies in it. -/
def gridPoint? (reals : Interval) (exponent grid : Int) : Option Decimal :=
  let unit := twoPower (exponent - 2) * tenPower (-grid)
  let step := twoPower (2 - exponent) * tenPower grid
  let value := reals.middle * unit
  let floor := value / step
  let down := below reals.closed (reals.low * unit) (floor * step)
  let up := below reals.closed ((floor + 1) * step) (reals.high * unit)
  if up && (!down || (floor + 1) * step - value ≤ value - floor * step) then
    some { coefficient := floor + 1, exponent := grid }
  else if down then some { coefficient := floor, exponent := grid }
  else none

def gridCount : Nat := 350

/-- Grids from coarse to fine: the first is beyond the number, the last finer than any. -/
def grids (reals : Interval) (exponent : Int) : List Int :=
  let whole := reals.high * twoPower (exponent - 2) / twoPower (2 - exponent)
  let top : Int := (Text.decimal whole).length
  (List.range gridCount).map fun (n : Nat) => top - n

def shortest (mantissa : Nat) (exponent : Int) : Decimal :=
  let reals := interval mantissa exponent
  ((grids reals exponent).findSome? (gridPoint? reals exponent)).getD ⟨0, 0⟩

def signText (negative : Bool) : List Char :=
  if negative then ['-'] else []

/-- All digits are written out and no exponent; infinity and what is not a number have names. -/
def text : Binary64 → List Char
  | .finite negative mantissa exponent =>
      signText negative ++
        (if mantissa = 0 then ['0'] else (shortest mantissa exponent).positional)
  | .infinite negative => signText negative ++ ['i', 'n', 'f']
  | .nan => ['N', 'a', 'N']

end SuiteScribe.Number.Binary64
