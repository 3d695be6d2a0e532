import Declarator.Signature.Basic
import Declarator.Text.Blank
import Declarator.Text.Pieces

/-!
# The written form of signatures

Which texts are written forms of a signature, said without reading them.

- `Signature.Written` : a text is a written form of a signature.
- `Signature.IsWellFormed` : a signature is made of words that can be written.
-/

namespace Declarator

/-- Blank characters and nothing else. -/
def IsGap (t : Text) : Prop :=
  ∀ c ∈ t, isBlank c = true

/-- A word for a place that the character `stop` would end. -/
structure IsWord (stop : Char) (t : Text) : Prop where
  ne_nil : t ≠ []
  not_blank : ∀ c ∈ t, isBlank c = false
  stop_not_mem : stop ∉ t

namespace Signature

/-- A modifier with the gap behind it, or nothing for no modifier. -/
inductive WrittenModifier : Option Modifier → Text → Prop where
  | absent : WrittenModifier none []
  | present (m : Modifier) {gap : Text} (hne : gap ≠ []) (hgap : IsGap gap) :
      WrittenModifier (some m) (m.keyword ++ gap)

/-- A type and a name with a gap between them and any gaps around; no separator is in it. -/
inductive WrittenArgument : Argument → Text → Prop where
  | mk (a : Argument) {before between after : Text} (hbefore : IsGap before) (hne : between ≠ [])
      (hbetween : IsGap between) (hafter : IsGap after) (htype : IsWord ')' a.type)
      (hname : IsWord ')' a.name)
      (hsep : ¬ Text.separator <:+: before ++ a.type ++ between ++ a.name ++ after) :
      WrittenArgument a (before ++ a.type ++ between ++ a.name ++ after)

/-- Arguments and as many written forms, in the same order. -/
inductive WrittenEntries : List Argument → List Text → Prop where
  | nil : WrittenEntries [] []
  | cons {a : Argument} {t : Text} {arguments : List Argument} {entries : List Text}
      (ha : WrittenArgument a t) (hs : WrittenEntries arguments entries) :
      WrittenEntries (a :: arguments) (t :: entries)

/-- What stands between the parentheses: entries with separators between them, or a gap for no
arguments. -/
inductive WrittenArguments : List Argument → Text → Prop where
  | none {gap : Text} (hgap : IsGap gap) : WrittenArguments [] gap
  | some {arguments : List Argument} {entries : List Text} (hne : arguments ≠ [])
      (hs : WrittenEntries arguments entries) : WrittenArguments arguments (Text.joined entries)

/-- A text is a written form of a signature: an optional modifier, a return type that is no
keyword, the method name, and the arguments in parentheses. -/
inductive Written : Signature → Text → Prop where
  | mk (s : Signature) {before modifier between after list behind : Text} (hbefore : IsGap before)
      (hmodifier : WrittenModifier s.modifier modifier) (hne : between ≠ [])
      (hbetween : IsGap between) (hafter : IsGap after) (hbehind : IsGap behind)
      (hreturn : IsWord '(' s.returnType) (hkeyword : isKeyword s.returnType = false)
      (hname : IsWord '(' s.methodName) (hlist : WrittenArguments s.arguments list) :
      Written s (before ++ modifier ++ s.returnType ++ between ++ s.methodName ++ after
        ++ '(' :: list ++ ')' :: behind)

/-- A signature whose texts are words for their places, and whose return type is no keyword. -/
structure IsWellFormed (s : Signature) : Prop where
  returnType : IsWord '(' s.returnType
  returnType_not_keyword : isKeyword s.returnType = false
  methodName : IsWord '(' s.methodName
  arguments : ∀ a ∈ s.arguments, IsWord ')' a.type ∧ IsWord ')' a.name

end Signature

end Declarator
