import Declarator.Text.Basic

/-!
# Method signatures

A method signature names an optional access modifier, a return type, the method, and its
arguments. Nothing is asked of the texts in it: a signature can be put together that no text
denotes.

- `Modifier.ofKeyword?_eq_some_iff` : a text is a modifier exactly when it is its keyword.
-/

namespace Declarator

/-- Who may call a method. -/
inductive Modifier where
  | publicAccess
  | privateAccess
  | protectedAccess
  deriving DecidableEq

namespace Modifier

/-- Every modifier once. -/
def all : List Modifier := [.publicAccess, .privateAccess, .protectedAccess]

/-- The keyword of a modifier. -/
def keyword : Modifier → Text
  | .publicAccess => "public".toList
  | .privateAccess => "private".toList
  | .protectedAccess => "protected".toList

/-- The modifier with a given keyword; only the whole keyword counts. -/
def ofKeyword? (token : Text) : Option Modifier :=
  all.find? (·.keyword == token)

/-- The place of a modifier among all of them. -/
def index (m : Modifier) : Nat :=
  all.idxOf m

@[simp] theorem getElem?_all_index (m : Modifier) : all[m.index]? = some m := by
  cases m <;> rfl

@[simp] theorem ofKeyword?_keyword (m : Modifier) : ofKeyword? m.keyword = some m := by
  cases m <;> decide

theorem ofKeyword?_eq_some_iff {token : Text} {m : Modifier} :
    ofKeyword? token = some m ↔ token = m.keyword := by
  constructor
  · intro h
    have := List.find?_some h
    simpa using (beq_iff_eq.1 this).symm
  · rintro rfl
    exact ofKeyword?_keyword m

end Modifier

/-- Whether a text is the keyword of a modifier. -/
def isKeyword (token : Text) : Bool :=
  (Modifier.ofKeyword? token).isSome

/-- One argument of a method: its type and its name. -/
structure Argument where
  type : Text
  name : Text
  deriving DecidableEq

/-- A method signature. The arguments are in the order of the text, and an argument may occur more
than once. -/
structure Signature where
  modifier : Option Modifier
  returnType : Text
  methodName : Text
  arguments : List Argument
  deriving DecidableEq

end Declarator
