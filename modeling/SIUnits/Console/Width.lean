import SIUnits.Console.Table
import SIUnits.Console.Wrap

/-! The console of the program. Only headings and prompts are broken into lines, and only a prompt
may be one that cannot be. -/
namespace SIUnits.Console

/-- A plain console of so many columns. -/
def ofWidth (columns : Nat) : Console where
  announce s := wrapped columns s ++ "\n"
  line s := plain s ++ "\n"
  prompt s :=
    match wrapFault? columns s with
    | some fault => .error ⟨fault.message⟩
    | none => .ok (wrapped columns s)
  table := Table.text
  panel := framed

end SIUnits.Console
