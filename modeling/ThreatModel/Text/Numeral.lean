import ThreatModel.Text.Blank
import ThreatModel.Text.Digit

/-!
Contract: whole numbers written in a base, and decimal notation.

Owns:
- whole numbers with blanks around them, a sign, and the mark of the base;
- decimal notation with a point and an exponent;
- the limit on the number of digits that are read.

Does not own: separators between digits.
-/

namespace ThreatModel.Text

/-- More digits than this are not read; leading zeros count. -/
def digitLimit : Nat := 4300

def tooManyDigits (count : Nat) : String :=
  s!"Exceeds the limit ({digitLimit} digits) for integer string conversion: " ++
    s!"value has {count} digits; use sys.set_int_max_str_digits() to increase the limit"

/-- Takes a sign off; `true` means a minus sign. -/
def signOf : List Char → Bool × List Char
  | '-' :: rest => (true, rest)
  | '+' :: rest => (false, rest)
  | text => (false, text)

/-! ## Whole numbers -/

inductive IntegerFault where
  | shape
  | tooManyDigits (count : Nat)
deriving DecidableEq, Repr

/-- The value of a digit in bases up to sixteen. -/
def baseDigit?
    (base : Nat)
    (character : Char) :
    Option Nat :=
  let value :=
    match digitValue? character with
    | some value => some value
    | none =>
        if 'a' ≤ character ∧ character ≤ 'f' then some (character.toNat - 'a'.toNat + 10)
        else if 'A' ≤ character ∧ character ≤ 'F' then some (character.toNat - 'A'.toNat + 10)
        else none
  value.filter fun value => decide (value < base)

/-- The mark that may stand before the digits of a base other than ten. -/
def baseMark : Nat → List Char
  | 2 => ['b', 'B']
  | 8 => ['o', 'O']
  | 16 => ['x', 'X']
  | _ => []

def dropBaseMark
    (base : Nat) :
    List Char → List Char
  | '0' :: mark :: rest => if mark ∈ baseMark base then rest else '0' :: mark :: rest
  | text => text

def naturalInBase?
    (base : Nat)
    (digits : List Char) :
    Option Nat :=
  if digits.isEmpty then none
  else
    digits.foldl
      (fun value digit => do return base * (← value) + (← baseDigit? base digit))
      (some 0)

/-- Reads a whole number in base two, eight, ten or sixteen. Only in base ten is the number of
digits limited. -/
def integerInBase
    (base : Nat)
    (text : List Char) :
    Except IntegerFault Int :=
  let (negative, rest) := signOf (trim text)
  let digits := dropBaseMark base rest
  match naturalInBase? base digits with
  | none => .error .shape
  | some value =>
      if base = 10 ∧ digitLimit < digits.length then .error (.tooManyDigits digits.length)
      else .ok (if negative then -(value : Int) else value)

/-! ## Decimal notation -/

/-- A number in decimal notation: `digits · 10 ^ exponent`, negated or not. -/
structure Decimal where
  negative : Bool
  digits : Nat
  exponent : Int
deriving DecidableEq, Repr

def decimalExponent? : List Char → Option Int
  | [] => some 0
  | mark :: rest =>
      if mark = 'e' ∨ mark = 'E' then
        let (negative, digits) := signOf rest
        if digits.isEmpty ∨ ¬digits.all isDecimalDigit then none
        else
          let value : Int := decimalValue digits
          some (if negative then -value else value)
      else
        none

/-- Digits with at most one point among them, and perhaps an exponent. -/
def decimalOf? (text : List Char) : Option Decimal := do
  let (negative, rest) := signOf text
  let whole := rest.takeWhile isDecimalDigit
  let (places, rest) :=
    match rest.dropWhile isDecimalDigit with
    | '.' :: rest => (rest.takeWhile isDecimalDigit, rest.dropWhile isDecimalDigit)
    | rest => ([], rest)
  if whole.isEmpty ∧ places.isEmpty then
    none
  else
    return ⟨negative, decimalValue (whole ++ places), (← decimalExponent? rest) - places.length⟩

end ThreatModel.Text
