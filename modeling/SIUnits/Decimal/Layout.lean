import SIUnits.Decimal.Literal
import SIUnits.Decimal.Shortest

/-! The written form of a double: its shortest decimal, positional or with an exponent. -/
namespace SIUnits

namespace Decimal

/-- Where a layout puts the point. The position of the point counts digits from the first one, so
that `123e-1` has its point at position two. -/
structure Layout where
  /-- The least and the greatest point position written without an exponent. -/
  leastPositional : Int
  mostPositional : Int
  /-- The least number of digits of an exponent. -/
  exponentWidth : Nat

/-- Sizes from `10 ^ -4` up to below `10 ^ 16` are positional; an exponent has a sign and at least
two digits. -/
def Layout.plain : Layout := ⟨-3, 16, 2⟩

namespace Layout

def zeros (n : Nat) : Digits := List.replicate n .zero

def padLeft (width : Nat) (ds : Digits) : Digits := zeros (width - ds.length) ++ ds

/-- The digits with the point at position `p`, and at least one digit on either side of it. -/
def positional (ds : Digits) (p : Int) : Digits × Digits :=
  match p with
  | .ofNat p =>
    let padded := ds ++ zeros (p - ds.length)
    (if p = 0 then [.zero] else padded.take p,
      if padded.drop p = [] then [.zero] else padded.drop p)
  | .negSucc q => ([.zero], zeros (q + 1) ++ ds)

def exponent (layout : Layout) (e : Int) : Exponent :=
  ⟨false, some (if e < 0 then .minus else .plus),
    padLeft layout.exponentWidth (Digits.ofNat e.natAbs)⟩

def literal (layout : Layout) (negative : Bool) (c : Nat) (e : Int) : Literal :=
  let sign := if negative then some Sign.minus else none
  let ds := Digits.ofNat c
  let p := (ds.length : Int) + e
  if layout.leastPositional ≤ p ∧ p ≤ layout.mostPositional then
    let (whole, fraction) := positional ds p
    ⟨sign, whole, some fraction, none⟩
  else
    ⟨sign, ds.take 1, if ds.length = 1 then none else some (ds.drop 1),
      some (layout.exponent (p - 1))⟩

end Layout

end Decimal

namespace Binary64

open Decimal

def literal (negative : Bool) (size : Magnitude) : Literal :=
  Layout.plain.literal negative size.shortest.1 size.shortest.2

def text : Binary64 → String
  | .finite negative size => toString (literal negative size)
  | .infinite false => "inf"
  | .infinite true => "-inf"
  | .nan => "nan"

instance : ToString Binary64 := ⟨text⟩

end Binary64

end SIUnits
