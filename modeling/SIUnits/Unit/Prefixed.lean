import SIUnits.Fault
import SIUnits.Unit.Tables
import SIUnits.Value.Display

/-! Units with a prefix. A token is taken apart into the root unit that it ends with and the prefix
in front of it. -/
namespace SIUnits

structure PrefixedUnit where
  symbol : String
  front : String
  root : Root
  exponent : Int
  multiplier : Binary64
deriving DecidableEq

namespace PrefixedUnit

open Checked

def toFields (u : PrefixedUnit) : Entries :=
  [("symbol", .text u.symbol), ("prefix", .text u.front), ("root_unit", .text u.root.symbol),
    ("exponent", .integer u.exponent), ("multiplier", .number u.multiplier)]

def checkSymbol (u : PrefixedUnit) : Checked PrefixedUnit :=
  if u.symbol = u.front ++ u.root.symbol then .ok u
  else .error [⟨[], .symbolMismatch u.symbol u.front u.root.symbol⟩]

/-- The unit with these fields. The symbol is compared only if every field is right by itself. -/
def ofFields (numerals : Numerals) (fields : Entries) : Checked PrefixedUnit :=
  let symbol := field "symbol" readText fields
  let front := field "prefix" readText fields
  let root := field "root_unit" readRoot fields
  let exponent := field "exponent" (readExponent numerals) fields
  let multiplier := field "multiplier" (readMultiplier numerals) fields
  match both (both (both (both (symbol.map mk) front) root) exponent) multiplier with
  | .ok u => u.checkSymbol
  | .error es => .error es

/-- The unit that a token stands for, looked up in the given tables. -/
def resolveIn (tables : UnitTables) (token : String) : Traced Fault PrefixedUnit := do
  match Root.ending? tables.roots token with
  | none =>
    .failWith (.unknownRootUnit token (.list (tables.roots.map fun root => .text root.symbol))) []
  | some root =>
    let front := root.front token
    match tables.exponentOf? front with
    | none => .failWith (.unknownPrefix token front) []
    | some exponent =>
      let u : PrefixedUnit := ⟨token, front, root, exponent, .powerOfTen exponent⟩
      let u ← .built .unit (ofFields .plain u.toFields)
      .log .debug .units ("Resolved " ++ Text.quoted token ++ ": prefix=" ++
        Text.quoted front ++ " root=" ++ root.symbol ++ " multiplier=" ++ u.multiplier.text)
      return u

/-- The token has a root unit of the tables at its end and a prefix of theirs in front of that. -/
def isValidIn (tables : UnitTables) (token : String) : Bool :=
  match Root.ending? tables.roots token with
  | none => false
  | some root => (tables.exponentOf? (root.front token)).isSome

def resolve (token : String) : Traced Fault PrefixedUnit := resolveIn .standard token

def isValid (token : String) : Bool := isValidIn .standard token

end PrefixedUnit

end SIUnits
