import Declarator.Json.Basic
import Declarator.Json.Typed
import Declarator.Signature.Basic

/-!
# Signatures as JSON

A signature is an object of its four fields, and an argument one of two; a modifier is its
keyword. Reading also takes an array of the fields in order, an object of a keyword and null for a
modifier, members in any order, and members that are not asked for. A modifier may be left out.

- `Modifier.toJson`, `Argument.toJson`, `Signature.toJson` : what is written.
- `Modifier.reader`, `Argument.reader`, `Signature.reader` : what is read.
- `Modifier.KeyRule` : how the object of a modifier is refused if its key is not a string.
  `Modifier.readerUnder` and `Signature.readerUnder` go by either rule.
-/

namespace Declarator

open Json

/-! ## Modifiers -/

namespace Modifier

def toJson (m : Modifier) : Json :=
  .string m.keyword

/-- The modifier of a given name. -/
def named (name : Text) : Reader Modifier :=
  match ofKeyword? name with
  | some m => pure m
  | none => throw (.data (.unknownVariant name (all.map keyword)))

/-- How the object of a modifier is refused if its key is not a string: as malformed, as any other
object is, or for the kind of value that stands in place of the key. Versions of the JSON library
differ in this. -/
inductive KeyRule where
  | malformed
  | mismatch

/-- The problem with a key that is not a string. -/
def KeyRule.problem : KeyRule → Text → Problem
  | .malformed => fun _ => .malformed
  | .mismatch => unexpected "variant identifier".toList

/-- The only member of an object, a keyword and null, after the opening bracket. -/
def keyed (rule : KeyRule) : Reader Modifier := do
  let m ← readStringOr rule.problem >>= named
  colon
  readNull
  mark '\x7d'
  return m

/-- A keyword, or an object of a keyword and null. -/
def readerUnder (rule : KeyRule) : Reader Modifier :=
  fun s =>
    match skipBlanks s with
    | [] => .error .truncated
    | c :: rest =>
        if c = '"' then (readString >>= named) (c :: rest)
        else if c = '\x7b' then keyed rule rest
        else .error .malformed

/-- A modifier, where a key that is not a string is malformed. -/
def reader : Reader Modifier :=
  readerUnder .malformed

theorem keeps_named (name : Text) : Keeps (named name) := by
  unfold named
  split
  · exact keeps_pure _
  · exact keeps_throw _

theorem keeps_keyed (rule : KeyRule) : Keeps (keyed rule) :=
  ((shrinks_readStringOr _).bind keeps_named).keeps.bind fun _ =>
    (shrinks_mark _).keeps.bind fun _ =>
      shrinks_readNull.keeps.bind fun _ => (shrinks_mark _).keeps.bind fun _ => keeps_pure _

theorem shrinks_readerUnder (rule : KeyRule) : Shrinks (readerUnder rule) := by
  intro s v rest h
  simp only [readerUnder] at h
  split at h
  · cases h
  · next c tail hs =>
      have hlt := length_lt_of_skipBlanks hs
      split at h
      · exact Nat.lt_of_lt_of_le (shrinks_readString.bind keeps_named h) hlt
      split at h
      · exact Nat.lt_of_le_of_lt (keeps_keyed rule h) hlt
      · cases h

end Modifier

/-! ## Arguments -/

namespace Argument

def typeKey : Text := "type".toList
def nameKey : Text := "name".toList

/-- How messages name an argument. -/
def expected : Text := "struct Argument".toList

def toJson (a : Argument) : Json :=
  .object [(typeKey, .string a.type), (nameKey, .string a.name)]

/-- The fields of an argument that have been read. -/
structure Draft where
  type : Option Text
  name : Option Text
  deriving DecidableEq

/-- The argument, once both fields have been read. -/
def Draft.finish (d : Draft) : Reader Argument :=
  match d.type, d.name with
  | some type, some name => pure ⟨type, name⟩
  | none, _ => throw (.data (.missingField typeKey))
  | _, none => throw (.data (.missingField nameKey))

/-- Reads what follows a key. -/
def Draft.visit (d : Draft) (key : Text) : Reader Draft :=
  if key = typeKey then do
    let type ← once typeKey d.type readString
    return { d with type := some type }
  else if key = nameKey then do
    let name ← once nameKey d.name readString
    return { d with name := some name }
  else do
    ignored
    return d

/-- The fields in order, after the opening bracket. -/
def fields : Reader Argument := do
  let type ← placed readString 0 expected 2
  let name ← placed readString 1 expected 2
  return ⟨type, name⟩

theorem keeps_visit (d : Draft) (key : Text) : Keeps (d.visit key) := by
  unfold Draft.visit
  split
  · exact (keeps_once shrinks_readString.keeps _ _).bind fun _ => keeps_pure _
  split
  · exact (keeps_once shrinks_readString.keeps _ _).bind fun _ => keeps_pure _
  · exact keeps_ignored.bind fun _ => keeps_pure _

theorem keeps_finish (d : Draft) : Keeps d.finish := by
  unfold Draft.finish
  split
  · exact keeps_pure _
  · exact keeps_throw _
  · exact keeps_throw _

/-- The members in any order, after the opening bracket. -/
def members : Reader Argument := do
  let d ← fun s => readMembers Draft.visit keeps_visit true ⟨none, none⟩ s
  d.finish

/-- An argument, as an object or an array. -/
def reader : Reader Argument :=
  readRecord expected fields members

theorem shrinks_reader : Shrinks reader :=
  shrinks_readRecord
    ((keeps_placed shrinks_readString _ _ _).bind fun _ =>
      (keeps_placed shrinks_readString _ _ _).bind fun _ => keeps_pure _)
    (Keeps.bind (fun _ _ _ h => Nat.le_of_lt (length_readMembers_lt h)) keeps_finish)

end Argument

/-! ## Signatures -/

namespace Signature

def modifierKey : Text := "access_modifier".toList
def returnTypeKey : Text := "return_type".toList
def methodNameKey : Text := "method_name".toList
def argumentsKey : Text := "arguments".toList

/-- How messages name a signature. -/
def expected : Text := "struct MethodSignature".toList

def toJson (s : Signature) : Json :=
  .object [
    (modifierKey, s.modifier.elim .null Modifier.toJson),
    (returnTypeKey, .string s.returnType),
    (methodNameKey, .string s.methodName),
    (argumentsKey, .array (s.arguments.map Argument.toJson))]

/-- The fields of a signature that have been read. A modifier that was read may still be none. -/
structure Draft where
  modifier : Option (Option Modifier)
  returnType : Option Text
  methodName : Option Text
  arguments : Option (List Argument)
  deriving DecidableEq

/-- The signature, once all fields but the modifier have been read. -/
def Draft.finish (d : Draft) : Reader Signature :=
  match d.returnType, d.methodName, d.arguments with
  | some returnType, some methodName, some arguments =>
      pure ⟨d.modifier.getD none, returnType, methodName, arguments⟩
  | none, _, _ => throw (.data (.missingField returnTypeKey))
  | _, none, _ => throw (.data (.missingField methodNameKey))
  | _, _, none => throw (.data (.missingField argumentsKey))

/-- A modifier, or null for none. -/
def readModifier (rule : Modifier.KeyRule) : Reader (Option Modifier) :=
  readOptional (Modifier.readerUnder rule)

def readArguments : Reader (List Argument) :=
  readList Argument.reader Argument.shrinks_reader

/-- Reads what follows a key. -/
def Draft.visit (rule : Modifier.KeyRule) (d : Draft) (key : Text) : Reader Draft :=
  if key = modifierKey then do
    let modifier ← once modifierKey d.modifier (readModifier rule)
    return { d with modifier := some modifier }
  else if key = returnTypeKey then do
    let returnType ← once returnTypeKey d.returnType readString
    return { d with returnType := some returnType }
  else if key = methodNameKey then do
    let methodName ← once methodNameKey d.methodName readString
    return { d with methodName := some methodName }
  else if key = argumentsKey then do
    let arguments ← once argumentsKey d.arguments readArguments
    return { d with arguments := some arguments }
  else do
    ignored
    return d

/-- The fields in order, after the opening bracket. -/
def fields (rule : Modifier.KeyRule) : Reader Signature := do
  let modifier ← placed (readModifier rule) 0 expected 4
  let returnType ← placed readString 1 expected 4
  let methodName ← placed readString 2 expected 4
  let arguments ← placed readArguments 3 expected 4
  return ⟨modifier, returnType, methodName, arguments⟩

theorem shrinks_readModifier (rule : Modifier.KeyRule) : Shrinks (readModifier rule) :=
  shrinks_readOptional (Modifier.shrinks_readerUnder rule)

theorem shrinks_readArguments : Shrinks readArguments :=
  shrinks_readList Argument.shrinks_reader

theorem keeps_visit (rule : Modifier.KeyRule) (d : Draft) (key : Text) :
    Keeps (d.visit rule key) := by
  unfold Draft.visit
  split
  · exact (keeps_once (shrinks_readModifier rule).keeps _ _).bind fun _ => keeps_pure _
  split
  · exact (keeps_once shrinks_readString.keeps _ _).bind fun _ => keeps_pure _
  split
  · exact (keeps_once shrinks_readString.keeps _ _).bind fun _ => keeps_pure _
  split
  · exact (keeps_once shrinks_readArguments.keeps _ _).bind fun _ => keeps_pure _
  · exact keeps_ignored.bind fun _ => keeps_pure _

/-- The members in any order, after the opening bracket. -/
def members (rule : Modifier.KeyRule) : Reader Signature := do
  let d ← fun s =>
    readMembers (Draft.visit rule) (keeps_visit rule) true ⟨none, none, none, none⟩ s
  d.finish

/-- A signature, as an object or an array. -/
def readerUnder (rule : Modifier.KeyRule) : Reader Signature :=
  readRecord expected (fields rule) (members rule)

/-- A signature, where a modifier's key that is not a string is malformed. -/
def reader : Reader Signature :=
  readerUnder .malformed

end Signature

end Declarator
