/-! The SI prefixes with their powers of ten, as rows of two tables. No prefix at all counts as the
one with the empty symbol, and has a row in both. -/
namespace SIUnits

structure SIPrefix where
  symbol : String
  name : String
  exponent : Int
deriving DecidableEq

namespace SIPrefix

/-- The prefixes for powers from the hundredth to the hundred. -/
def centiToHecto : List SIPrefix :=
  [⟨"c", "centi", -2⟩, ⟨"d", "deci", -1⟩, ⟨"", "", 0⟩, ⟨"da", "deca", 1⟩, ⟨"h", "hecto", 2⟩]

/-- The prefixes for powers of a thousand. -/
def yoctoToYotta : List SIPrefix :=
  [⟨"y", "yocto", -24⟩, ⟨"z", "zepto", -21⟩, ⟨"a", "atto", -18⟩, ⟨"f", "femto", -15⟩,
    ⟨"p", "pico", -12⟩, ⟨"n", "nano", -9⟩, ⟨"u", "micro", -6⟩, ⟨"m", "milli", -3⟩, ⟨"", "", 0⟩,
    ⟨"k", "kilo", 3⟩, ⟨"M", "mega", 6⟩, ⟨"G", "giga", 9⟩, ⟨"T", "tera", 12⟩, ⟨"P", "peta", 15⟩,
    ⟨"E", "exa", 18⟩, ⟨"Z", "zetta", 21⟩, ⟨"Y", "yotta", 24⟩]

/-- The first prefix with this symbol in the first of the tables that has one. -/
def ofSymbol? (tables : List (List SIPrefix)) (s : String) : Option SIPrefix :=
  tables.findSome? (·.find? (·.symbol = s))

end SIPrefix

end SIUnits
