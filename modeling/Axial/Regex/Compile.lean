import Axial.Regex.Meaning
import Axial.Regex.Parser
import Axial.Regex.Size

/-!
# The regular expression of a text

A text spells a regular expression if it is a pattern, its parts are not nested too deep, its flags
allow all that it asks for, and its automata are not too large.

* `Regex.compile?` : the expression of a text.
* `Regex.compileWhole?` : the expression that matches whole texts.
-/

namespace Axial

namespace Regex

/-- How deep the parts of a pattern may be nested. -/
def depthLimit : Nat := 250

/-- The regular expression that a text spells. -/
def compile? (text : String) : Option Regex := do
  let pattern ← Pattern.parse? text
  guard (pattern.depth false false ≤ depthLimit)
  let regex ← pattern.meaning?
  guard regex.fits
  return regex

/-- The regular expression that matches a whole text where the given one matches it. -/
def compileWhole? (text : String) : Option Regex :=
  compile? ("^(?:" ++ text ++ ")$")

end Regex

end Axial
