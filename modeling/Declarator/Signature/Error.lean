import Declarator.Parsing.Combinator

/-!
# Why a signature is refused

- `Signature.Error` : the causes, each with the part of the text that is at fault.
- `Signature.Error.name` : the name of a cause, without that part.
- `Signature.Error.message` : what is said to the reader.
-/

namespace Declarator.Signature

open Parsing (Rule)

/-- Why a text is not a signature. -/
inductive Error where
  /-- The text is blank. -/
  | empty
  /-- No parenthesis opens the argument list. -/
  | missingOpenParen
  /-- No parenthesis closes the argument list. -/
  | missingCloseParen
  /-- No return type stands before the method name. -/
  | missingReturnType
  /-- Three words stand before the parenthesis, and the first is no modifier. -/
  | unexpectedModifier (token : Text)
  /-- More than three words stand before the parenthesis. -/
  | tooManyHeaderTokens (count : Nat)
  /-- An entry of the argument list is not a type and a name. -/
  | malformedArgument (argument : Text)
  /-- Something stands after the closing parenthesis. -/
  | trailingInput (rest : Text)
  /-- A parsing rule did not match, and nothing more is known. -/
  | generic (rule : Rule)
  deriving DecidableEq

instance : Parsing.RuleError Error where
  ofRule rule _ := .generic rule

namespace Error

/-- The name of a cause. -/
def name : Error → Text
  | .empty => "Empty".toList
  | .missingOpenParen => "MissingOpenParen".toList
  | .missingCloseParen => "MissingCloseParen".toList
  | .missingReturnType => "MissingReturnType".toList
  | .unexpectedModifier _ => "UnexpectedModifier".toList
  | .tooManyHeaderTokens _ => "TooManyHeaderTokens".toList
  | .malformedArgument _ => "MalformedArgument".toList
  | .trailingInput _ => "TrailingInput".toList
  | .generic _ => "Nom".toList

/-- What is said about a refused text. -/
def message : Error → Text
  | .empty => "empty method signature".toList
  | .missingOpenParen => "missing \x60(\x60 after the method name".toList
  | .missingCloseParen => "missing \x60)\x60 at the end of the parameter list".toList
  | .missingReturnType => "missing return type before the method name".toList
  | .unexpectedModifier token =>
      "\x60".toList ++ token
        ++ "\x60 is not an access modifier (expected public, private or protected)".toList
  | .tooManyHeaderTokens count =>
      "expected at most three tokens before \x60(\x60, found ".toList ++ Nat.toDigits 10 count
  | .malformedArgument argument =>
      "malformed argument \x60".toList ++ argument ++ "\x60, expected \x60type name\x60".toList
  | .trailingInput rest => "unexpected input after \x60)\x60: \x60".toList ++ rest ++ "\x60".toList
  | .generic rule => "unexpected input (".toList ++ rule.name ++ ")".toList

end Error

end Declarator.Signature
