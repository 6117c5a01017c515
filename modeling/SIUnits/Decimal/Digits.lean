/-! Decimal digits. A numeral is a list of digits with the most significant first; `value` reads
one and `ofNat` writes the one without leading zeros. -/
namespace SIUnits.Decimal

abbrev Digit := Fin 10

namespace Digit

def zero : Digit := ⟨0, by decide⟩

def toChar (d : Digit) : Char := Char.ofNat (48 + d.val)

def ofChar? (c : Char) : Option Digit :=
  if h : 48 ≤ c.toNat ∧ c.toNat < 58 then some ⟨c.toNat - 48, by omega⟩ else none

theorem ofChar?_toChar : ∀ d : Digit, ofChar? d.toChar = some d := by decide

end Digit

abbrev Digits := List Digit

namespace Digits

/-- The number that a numeral denotes; the empty numeral denotes zero. -/
def value (ds : Digits) : Nat := ds.foldl (fun n d => 10 * n + d.val) 0

/-- The last `width` digits of `n` at least, and all of them where `width` is at least their
number. -/
def ofNatWithin : Nat → Nat → Digits
  | 0, _ => []
  | width + 1, n =>
    let last : Digit := ⟨n % 10, Nat.mod_lt n (by decide)⟩
    if n < 10 then [last] else ofNatWithin width (n / 10) ++ [last]

/-- The numeral of `n` without leading zeros; zero has the one digit `0`. -/
def ofNat (n : Nat) : Digits := ofNatWithin (n.log2 + 1) n

def toChars (ds : Digits) : List Char := ds.map Digit.toChar

def scan : List Char → Digits × List Char
  | [] => ([], [])
  | c :: cs =>
    match Digit.ofChar? c with
    | some d => let (ds, rest) := scan cs; (d :: ds, rest)
    | none => ([], c :: cs)

end Digits

def integer (n : Int) : List Char :=
  let ds := (Digits.ofNat n.natAbs).toChars
  if n < 0 then '-' :: ds else ds

end SIUnits.Decimal
