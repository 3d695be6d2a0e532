import Declarator.Signature.Basic
import Declarator.Signature.Error
import Declarator.Text.Blank
import Declarator.Text.Pieces

/-!
# Reading a signature

The text before the first opening parenthesis is the header: two words, or three of which the
first is a modifier. The words are told apart from the end, so the last is the method's name. The
text up to the first closing parenthesis after it holds the arguments, and nothing follows it.
Arguments are looked at before the closing parenthesis, and both before the header's words.

- `Signature.parse` : the signature that a text denotes, or why it denotes none.
- `Signature.parseArguments` : the same for an argument list that stands alone.
- `Signature.hasModifier` : whether the first word of a text is a modifier.
- `Signature.firstAlike` : which of several texts denote the same.
-/

namespace Declarator.Signature

open Parsing

/-! ## Words -/

/-- A word: a run of characters that are not blank. -/
def token : Parser Error Text :=
  takeTill1 isBlank

/-- A run of blank characters. -/
def gap : Parser Error Text :=
  takeWhile1 isBlank

/-! ## Arguments -/

/-- A type and a name. -/
def typedName : Parser Error Argument := do
  let type ← token
  let _ ← gap
  let name ← token
  return ⟨type, name⟩

/-- An entry of the argument list, blank characters around it taken off: a type and a name and
nothing else. -/
def entry (segment : Text) : Parser Error Argument :=
  within segment (cut (fun _ => .malformedArgument segment) (allConsuming typedName))

/-- The arguments up to the closing parenthesis, which is left. A blank list has none. -/
def argumentList : Parser Error (List Argument) := do
  let inner ← takeTill (· == ')')
  if Text.isAllBlank inner then return []
  else ((Text.pieces inner).map Text.trim).mapM entry

/-- The arguments between their parentheses. -/
def parameterList : Parser Error (List Argument) := do
  let _ ← cut (fun _ => .missingOpenParen) (char '(')
  let arguments ← argumentList
  let _ ← cut (fun _ => .missingCloseParen) (char ')')
  return arguments

/-- Nothing follows the parameter list. -/
def endOfSignature : Parser Error Unit :=
  cut .trailingInput eof

/-- A parameter list and the end of the text. -/
def closedParameterList : Parser Error (List Argument) := do
  let arguments ← parameterList
  endOfSignature
  return arguments

/-! ## The header -/

/-- What stands before the parenthesis. -/
structure Header where
  modifier : Option Modifier
  returnType : Text
  methodName : Text
  deriving DecidableEq

/-- The words of a header, with nothing before the first. -/
def headerWords : Parser Error (List Text) :=
  allConsuming (separatedList1 gap token)

/-- Tells the words of a header apart. -/
def Header.ofWords : List Text → Except Error Header
  | [_] => .error .missingReturnType
  | [returnType, methodName] =>
      if isKeyword returnType then .error .missingReturnType
      else .ok ⟨none, returnType, methodName⟩
  | [modifier, returnType, methodName] =>
      match Modifier.ofKeyword? modifier with
      | none => .error (.unexpectedModifier modifier)
      | some m =>
          if isKeyword returnType then .error .missingReturnType
          else .ok ⟨some m, returnType, methodName⟩
  | words => .error (.tooManyHeaderTokens words.length)

/-- The header that a text holds. -/
def header (text : Text) : Parser Error Header := do
  let words ← within (Text.trimEnd text) headerWords
  match Header.ofWords words with
  | .ok h => return h
  | .error e => fail e

/-! ## Signatures -/

/-- A whole signature, with nothing blank around it. -/
def signature : Parser Error Signature := do
  let text ← cut (fun _ => .missingReturnType) (takeTill1 (· == '('))
  let arguments ← closedParameterList
  let h ← header text
  return ⟨h.modifier, h.returnType, h.methodName, arguments⟩

/-- The signature that a text denotes, blank characters around it aside. -/
def parse (text : Text) : Except Error Signature :=
  let input := Text.trim text
  if input.isEmpty then .error .empty
  else (signature input).settle (.generic .complete)

/-- The arguments that a text denotes as a parameter list, blank characters around it aside. -/
def parseArguments (text : Text) : Except Error (List Argument) :=
  (closedParameterList (Text.trim text)).settle (.generic .complete)

/-- Whether the first word of a text is a modifier's keyword. -/
def hasModifier (text : Text) : Bool :=
  (Text.words text).head?.any isKeyword

/-- For each text in a list, the place of the first text that gives the same result. -/
def firstAlike (texts : List Text) : List Nat :=
  let results := texts.map parse
  results.map results.idxOf

/-- The place given to a text is the first in the list with the same result. -/
theorem getElem?_firstAlike_eq_some_iff {texts : List Text} {i j : Nat} (hi : i < texts.length) :
    (firstAlike texts)[i]? = some j ↔
      ∃ hj : j < texts.length, parse texts[j] = parse texts[i] ∧
        ∀ k (hk : k < j), parse texts[k] ≠ parse texts[i] := by
  have hplace : (firstAlike texts)[i]? =
      some (texts.findIdx fun text => parse text == parse texts[i]) := by
    simp [firstAlike, hi, List.idxOf, Function.comp_def]
  have hlt : (texts.findIdx fun text => parse text == parse texts[i]) < texts.length :=
    List.findIdx_lt_length_of_exists ⟨texts[i], List.getElem_mem hi, BEq.rfl⟩
  rw [hplace, Option.some_inj]
  constructor
  · rintro rfl
    obtain ⟨hsame, hfirst⟩ := (List.findIdx_eq hlt).1 rfl
    exact ⟨hlt, eq_of_beq hsame, fun k hk => ne_of_beq_false (hfirst k hk)⟩
  · rintro ⟨hj, hsame, hfirst⟩
    exact (List.findIdx_eq hj).2 ⟨beq_of_eq hsame, fun k hk => beq_false_of_ne (hfirst k hk)⟩

end Declarator.Signature
