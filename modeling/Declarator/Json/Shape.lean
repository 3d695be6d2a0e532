import Declarator.Json.Grammar
import Declarator.Json.Problem
import Mathlib.Data.List.Forall2

/-!
# Records in the form of an object

A record is written as an object whose members stand in any order, some of them perhaps unknown or
repeated. What is said here of one kind of records is said in the words of its shape.

- `Json.SpelledList` : a text is a written form of a list.
- `Json.Shape` : the members that records of a kind may have, and the records they make.
- `Json.Shape.Spelled` : a text is a written form of an object of given members.
- `Json.Shape.Outcome` : what such an object must be read as.
-/

namespace Declarator.Json

variable {μ α : Type}

/-- An array of values, each in a form that `Holds` allows. -/
inductive SpelledList (Holds : α → Text → Prop) (vs : List α) : Text → Prop where
  | mk {parts : List Text} {inner : Text} (h : List.Forall₂ Holds vs parts)
      (hinner : Listed parts inner) : SpelledList Holds vs ('[' :: inner ++ [']'])

/-- A key, a colon, and a text that `Holds` allows. -/
inductive SpelledMember (key : Text) (Holds : Text → Prop) : Text → Prop where
  | mk {keyText before gap part : Text} (hkey : SpelledString key keyText)
      (hbefore : IsPadding before) (hgap : IsPadding gap) (h : Holds part) :
      SpelledMember key Holds (keyText ++ (before ++ ':' :: (gap ++ part)))

/-- A kind of records `α`, whose objects have members `μ`. -/
structure Shape (μ α : Type) where
  key : μ → Text
  /-- The keys of the fields. -/
  known : List Text
  /-- The keys that must not be left out, in the order in which they are asked for. -/
  required : List Text
  /-- A text is a written form of the value of a member. -/
  Holds : μ → Text → Prop
  /-- A record is made of the values of members. -/
  MadeOf : α → List μ → Prop

namespace Shape

/-- A text is a written form of the object of these members, in this order. -/
inductive Spelled (S : Shape μ α) (members : List μ) : Text → Prop where
  | mk {parts : List Text} {inner : Text}
      (h : List.Forall₂ (fun m => SpelledMember (S.key m) (S.Holds m)) members parts)
      (hinner : Listed parts inner) : Spelled S members ('{' :: inner ++ ['}'])

/-- The known keys among those of some members, as often as they occur. -/
def keysOf (S : Shape μ α) (members : List μ) : List Text :=
  (members.map S.key).filter (· ∈ S.known)

/-- The members with a known key, in their order. -/
def asked (S : Shape μ α) (members : List μ) : List μ :=
  members.filter (S.key · ∈ S.known)

/-- What the object of these members must be read as. -/
inductive Outcome (S : Shape μ α) (members : List μ) : Except Problem α → Prop where
  /-- The first member whose known key has occurred before. -/
  | repeated {front behind : List μ} {m : μ} (hmembers : members = front ++ m :: behind)
      (hfront : (S.keysOf front).Nodup) (hagain : S.key m ∈ S.keysOf front) :
      Outcome S members (.error (.data (.duplicateField (S.key m))))
  /-- The first key that is required and does not occur. -/
  | missing {key : Text} (honce : (S.keysOf members).Nodup)
      (hfirst : S.required.find? (· ∉ S.keysOf members) = some key) :
      Outcome S members (.error (.data (.missingField key)))
  | complete {v : α} (honce : (S.keysOf members).Nodup)
      (hall : ∀ key ∈ S.required, key ∈ S.keysOf members) (hv : S.MadeOf v members) :
      Outcome S members (.ok v)

end Shape

end Declarator.Json
