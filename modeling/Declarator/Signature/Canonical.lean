import Declarator.Signature.Basic
import Declarator.Text.Pieces

/-!
# The canonical form of a signature

A signature is written with one space between its words, no space before the parentheses, and a
comma and one space between arguments.

- `Argument.canonical`, `Signature.canonical` : the canonical form.
-/

namespace Declarator

/-- The type and the name, one space between them. -/
def Argument.canonical (a : Argument) : Text :=
  a.type ++ ' ' :: a.name

namespace Signature

/-- The arguments of a signature as they stand between the parentheses. -/
def canonicalArguments (arguments : List Argument) : Text :=
  Text.joined (arguments.map Argument.canonical)

/-- The part of a signature before the parenthesis. -/
def canonicalHeader (s : Signature) : Text :=
  (s.modifier.elim [] fun m => m.keyword ++ [' ']) ++ s.returnType ++ ' ' :: s.methodName

/-- A signature in canonical form. -/
def canonical (s : Signature) : Text :=
  s.canonicalHeader ++ '(' :: canonicalArguments s.arguments ++ [')']

end Signature

end Declarator
