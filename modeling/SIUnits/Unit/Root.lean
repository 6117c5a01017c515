/-! The root units: the seven base units of the SI, with the gram in place of the kilogram. -/
namespace SIUnits

inductive Root where
  | meter
  | gram
  | second
  | ampere
  | kelvin
  | candela
  | mole
deriving DecidableEq

namespace Root

/-- All root units, in the order in which they are tried. -/
def all : List Root := [.meter, .gram, .second, .ampere, .kelvin, .candela, .mole]

def symbol : Root → String
  | .meter => "m"
  | .gram => "g"
  | .second => "s"
  | .ampere => "A"
  | .kelvin => "K"
  | .candela => "cd"
  | .mole => "mol"

def name : Root → String
  | .meter => "meter"
  | .gram => "gram"
  | .second => "second"
  | .ampere => "ampere"
  | .kelvin => "kelvin"
  | .candela => "candela"
  | .mole => "mole"

def ofSymbol? (s : String) : Option Root := all.find? (·.symbol = s)

def Ends (root : Root) (token : String) : Prop := root.symbol.toList <:+ token.toList

instance (root : Root) (token : String) : Decidable (root.Ends token) :=
  decidable_of_iff (root.symbol.toList.isSuffixOf token.toList = true)
    List.isSuffixOf_iff_suffix

/-- The first of the given root units that the token ends with. -/
def ending? (roots : List Root) (token : String) : Option Root :=
  roots.find? fun root => decide (root.Ends token)

def front (root : Root) (token : String) : String :=
  String.ofList (token.toList.take (token.toList.length - root.symbol.toList.length))

end Root

end SIUnits
