import Declarator.Text.Quoted
import Declarator.Text.Pieces
import Declarator.Decimal.Shortest

/-!
# Problems of a JSON text

A JSON text that does not hold a wanted value is ended too early, malformed, or well-formed so far
but of the wrong kind. Only the last has a message.

- `Json.Found` : a kind of value, as it is named in a message.
- `Json.Cause` : what is wrong with well-formed JSON.
- `Json.Cause.message` : its message.
-/

namespace Declarator.Json

/-- What was found in place of a wanted value. -/
inductive Found where
  | null
  | boolean (b : Bool)
  | integer (n : Int)
  | float (negative : Bool) (magnitude : Binary64)
  | string (t : Text)
  | array
  | object
  deriving DecidableEq

/-- What is wrong with well-formed JSON. -/
inductive Cause where
  /-- A value is not of the wanted kind. -/
  | invalidType (found : Found) (expected : Text)
  /-- A name is none of the known ones. -/
  | unknownVariant (name : Text) (known : List Text)
  /-- A field occurs a second time. -/
  | duplicateField (name : Text)
  /-- A field does not occur. -/
  | missingField (name : Text)
  /-- An array has fewer elements than the value has fields. -/
  | invalidLength (length : Nat) (expected : Text) (fields : Nat)
  deriving DecidableEq

/-- Why a JSON text is refused. -/
inductive Problem where
  /-- The text is not JSON. -/
  | malformed
  /-- The text ends inside a value. -/
  | truncated
  /-- The text holds something else than was wanted. -/
  | data (cause : Cause)
  deriving DecidableEq

/-- A text between backquotes. -/
def named (t : Text) : Text :=
  '\x60' :: t ++ ['\x60']

/-- What was found, in words. -/
def Found.describe : Found → Text
  | .null => "null".toList
  | .boolean b => "boolean ".toList ++ named (if b then "true".toList else "false".toList)
  | .integer n =>
      "integer ".toList ++ named ((if n < 0 then ['-'] else []) ++ Nat.toDigits 10 n.natAbs)
  | .float negative x =>
      "floating point ".toList ++ named ((if negative then ['-'] else []) ++ x.text)
  | .string t => "string ".toList ++ Text.quoted t
  | .array => "sequence".toList
  | .object => "map".toList

/-- What is said about well-formed JSON of the wrong kind. -/
def Cause.message : Cause → Text
  | .invalidType found expected =>
      "invalid type: ".toList ++ found.describe ++ ", expected ".toList ++ expected
  | .unknownVariant name known =>
      "unknown variant ".toList ++ named name ++ ", expected one of ".toList
        ++ Text.joined (known.map named)
  | .duplicateField name => "duplicate field ".toList ++ named name
  | .missingField name => "missing field ".toList ++ named name
  | .invalidLength length expected fields =>
      "invalid length ".toList ++ Nat.toDigits 10 length ++ ", expected ".toList ++ expected
        ++ " with ".toList ++ Nat.toDigits 10 fields ++ " elements".toList

end Declarator.Json
