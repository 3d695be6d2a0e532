import Declarator.Outline
import Declarator.Signature.Basic
import Declarator.Signature.Error

/-!
# Outlines of signatures

How signatures, refusals, and what reading a text gave are shown in diagnostics.

- `Modifier.outline`, `Argument.outline`, `Signature.outline`, `Signature.Error.outline`.
- `Signature.resultOutline` : a signature that was read, or a refusal.
-/

namespace Declarator

/-- The name of a modifier in diagnostics. -/
def Modifier.label : Modifier → Text
  | .publicAccess => "Public".toList
  | .privateAccess => "Private".toList
  | .protectedAccess => "Protected".toList

def Modifier.outline (m : Modifier) : Outline :=
  .word m.label

def Argument.outline (a : Argument) : Outline :=
  .record "Argument".toList [("ty".toList, .quoted a.type), ("name".toList, .quoted a.name)]

namespace Signature

/-- A modifier that may be absent. -/
def modifierOutline : Option Modifier → Outline
  | none => .word "None".toList
  | some m => .tuple "Some".toList [m.outline]

def outline (s : Signature) : Outline :=
  .record "MethodSignature".toList [
    ("access_modifier".toList, modifierOutline s.modifier),
    ("return_type".toList, .quoted s.returnType),
    ("method_name".toList, .quoted s.methodName),
    ("arguments".toList, .list (s.arguments.map Argument.outline))]

/-- A cause by its name, with the part of the text that is at fault. -/
def Error.outline (e : Error) : Outline :=
  match e with
  | .unexpectedModifier token => .record e.name [("token".toList, .quoted token)]
  | .tooManyHeaderTokens count => .record e.name [("count".toList, .word (Nat.toDigits 10 count))]
  | .malformedArgument argument => .record e.name [("argument".toList, .quoted argument)]
  | .trailingInput rest => .record e.name [("rest".toList, .quoted rest)]
  | .generic rule => .record e.name [("kind".toList, .word rule.name)]
  | .empty | .missingOpenParen | .missingCloseParen | .missingReturnType => .word e.name

/-- What reading a text gave. -/
def resultOutline : Except Error Signature → Outline
  | .ok s => .tuple "Ok".toList [s.outline]
  | .error e => .tuple "Err".toList [e.outline]

end Signature

end Declarator
