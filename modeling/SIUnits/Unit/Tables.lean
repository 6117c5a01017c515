import SIUnits.Unit.Root
import SIUnits.Unit.SIPrefix

/-! The tables that unit tokens are looked up in. Their order is that of the search; no root symbol
is the end of another and no prefix symbol has two powers of ten, so the order decides nothing. -/
namespace SIUnits

structure UnitTables where
  roots : List Root
  prefixTables : List (List SIPrefix)

namespace UnitTables

def standard : UnitTables := ⟨Root.all, [SIPrefix.centiToHecto, SIPrefix.yoctoToYotta]⟩

def exponentOf? (tables : UnitTables) (s : String) : Option Int :=
  (SIPrefix.ofSymbol? tables.prefixTables s).map SIPrefix.exponent

/-- The prefix in front of the first one that stands for a power of ten at least as great. -/
def insertByExponent (p : SIPrefix) : List SIPrefix → List SIPrefix
  | [] => [p]
  | q :: rest => if p.exponent ≤ q.exponent then p :: q :: rest else q :: insertByExponent p rest

/-- The prefixes of the tables by increasing power of ten. Of several rows with one symbol the first
is listed. -/
def prefixes (tables : UnitTables) : List SIPrefix :=
  (tables.prefixTables.flatten.eraseDupsBy fun p q => decide (p.symbol = q.symbol)).foldr
    insertByExponent []

end UnitTables

end SIUnits
