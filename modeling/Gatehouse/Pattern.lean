import Gatehouse.Pattern.Program
import Gatehouse.Pattern.Reader

/-!
Patterns that texts are tested against. Two patterns are equal if they are written alike.
-/
namespace Gatehouse

structure Pattern where
  text : String
  program : Pattern.Program
  deriving Repr, Inhabited

namespace Pattern

def parse (s : String) : Option Pattern := (expr? s).map fun e => ⟨s, .ofExpr e⟩

/-- Whether the pattern is found somewhere in the text. -/
def isMatch (p : Pattern) (s : String) : Bool := p.program.matchesText s

instance : BEq Pattern := ⟨fun a b => a.text == b.text⟩

end Pattern
end Gatehouse
