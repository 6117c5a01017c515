import SIUnits.Decimal.Digits

/-! Decimal literals: an optional sign, a whole part, an optional point with a fraction, and an
optional exponent, over ASCII. A literal keeps every choice of the text it was read from, so that
writing it gives the text back. -/
namespace SIUnits.Decimal

inductive Sign where
  | plus
  | minus
deriving DecidableEq

structure Exponent where
  capital : Bool
  sign : Option Sign
  digits : Digits
deriving DecidableEq

structure Literal where
  sign : Option Sign
  whole : Digits
  /-- The digits after the point; absent where there is no point. -/
  fraction : Option Digits
  exponent : Option Exponent
deriving DecidableEq

namespace Sign

def toChar : Sign → Char
  | .plus => '+'
  | .minus => '-'

def scan? : List Char → Option Sign × List Char
  | '+' :: cs => (some .plus, cs)
  | '-' :: cs => (some .minus, cs)
  | cs => (none, cs)

def toChars : Option Sign → List Char
  | none => []
  | some s => [s.toChar]

end Sign

namespace Exponent

def scan? : List Char → Option Exponent × List Char
  | [] => (none, [])
  | c :: cs =>
    if c = 'e' ∨ c = 'E' then
      let (sign, cs) := Sign.scan? cs
      let (digits, cs) := Digits.scan cs
      (some ⟨decide (c = 'E'), sign, digits⟩, cs)
    else
      (none, c :: cs)

def toChars : Option Exponent → List Char
  | none => []
  | some x => (if x.capital then 'E' else 'e') :: (Sign.toChars x.sign ++ x.digits.toChars)

def value (x : Exponent) : Int :=
  if x.sign = some .minus then -(x.digits.value : Int) else x.digits.value

end Exponent

namespace Literal

def scanFraction? : List Char → Option Digits × List Char
  | '.' :: cs => let (digits, cs) := Digits.scan cs; (some digits, cs)
  | cs => (none, cs)

def fractionChars : Option Digits → List Char
  | none => []
  | some ds => '.' :: ds.toChars

/-- There is a digit before or after the point, and one in the exponent if there is an
exponent. -/
def WellFormed (l : Literal) : Prop :=
  (l.whole ≠ [] ∨ l.fraction.getD [] ≠ []) ∧ ∀ x ∈ l.exponent, x.digits ≠ []

instance (l : Literal) : Decidable l.WellFormed :=
  match h : l.exponent with
  | none => decidable_of_iff (l.whole ≠ [] ∨ l.fraction.getD [] ≠ []) (by simp [WellFormed, h])
  | some x =>
    decidable_of_iff ((l.whole ≠ [] ∨ l.fraction.getD [] ≠ []) ∧ x.digits ≠ [])
      (by simp [WellFormed, h])

/-- The literal that is the whole of a text. -/
def ofChars? (cs : List Char) : Option Literal :=
  let (sign, cs) := Sign.scan? cs
  let (whole, cs) := Digits.scan cs
  let (fraction, cs) := scanFraction? cs
  let (exponent, cs) := Exponent.scan? cs
  let l : Literal := ⟨sign, whole, fraction, exponent⟩
  if cs = [] ∧ l.WellFormed then some l else none

def ofString? (s : String) : Option Literal := ofChars? s.toList

def toChars (l : Literal) : List Char :=
  Sign.toChars l.sign ++
    (l.whole.toChars ++ (fractionChars l.fraction ++ Exponent.toChars l.exponent))

instance : ToString Literal := ⟨fun l => String.ofList l.toChars⟩

def isNegative (l : Literal) : Bool := l.sign = some .minus

def digits (l : Literal) : Digits := l.whole ++ l.fraction.getD []

/-- The whole number that the digits denote: the literal stands for
`coefficient * 10 ^ power`. -/
def coefficient (l : Literal) : Nat := l.digits.value

def power (l : Literal) : Int :=
  (l.exponent.elim 0 Exponent.value) - ((l.fraction.getD []).length : Int)

end Literal

end SIUnits.Decimal
