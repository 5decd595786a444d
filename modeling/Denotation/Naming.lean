import Denotation.Naming.Conventions
import Denotation.Pattern.Parser

/-!
# The engine in use

Conventions run with the patterns of this library.  What is proved of conventions is proved of every
engine that finds the usual patterns as it should, and this is one of them.
-/

namespace Denotation

instance : PatternEngine := ⟨Pattern, Pattern.ofString?, Pattern.occursIn⟩

end Denotation
