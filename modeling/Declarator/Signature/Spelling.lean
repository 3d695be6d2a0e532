import Declarator.Json.Shape
import Declarator.Json.WellFormed
import Declarator.Signature.Json

/-!
# The written forms of signatures in JSON

Which texts are written forms of a signature, of an argument and of a modifier, said without reading
them. At each place the form may be chosen anew.

- `Modifier.Spelled` : a keyword, or an object of the keyword and null.
- `Argument.Spelled` : an array of the type and the name, or an object.
- `Signature.Spelled` : an array of the four fields, or an object.
-/

namespace Declarator

open Json

/-! ## Modifiers -/

/-- A keyword, or an object of the keyword and null. -/
def Modifier.Spelled (m : Modifier) (t : Text) : Prop :=
  Json.Spelled m.toJson t ∨ Json.Spelled (.object [(m.keyword, .null)]) t

/-! ## Arguments -/

namespace Argument

/-- A member of the object of an argument. -/
inductive Member where
  | type (t : Text)
  | name (t : Text)
  /-- A member that nobody asks for. -/
  | other (key : Text) (hkey : key ∉ [typeKey, nameKey])

namespace Member

def key : Member → Text
  | .type _ => typeKey
  | .name _ => nameKey
  | .other key _ => key

/-- The written forms of the value of a member. -/
def Holds : Member → Text → Prop
  | .type t => SpelledString t
  | .name t => SpelledString t
  | .other .. => WellFormed

end Member

/-- The objects of arguments. -/
def shape : Shape Member Argument where
  key := Member.key
  known := [typeKey, nameKey]
  required := [typeKey, nameKey]
  Holds := Member.Holds
  MadeOf a members := .type a.type ∈ members ∧ .name a.name ∈ members

/-- A text is a written form of an argument. -/
inductive Spelled (a : Argument) : Text → Prop where
  | places {typeText nameText inner : Text} (htype : SpelledString a.type typeText)
      (hname : SpelledString a.name nameText) (hinner : Listed [typeText, nameText] inner) :
      Spelled a ('[' :: inner ++ [']'])
  | members {members : List Member} {t : Text} (h : shape.Spelled members t)
      (ha : shape.Outcome members (.ok a)) : Spelled a t

end Argument

/-! ## Signatures -/

namespace Signature

/-- A modifier, or null if there is none. -/
def SpelledModifier : Option Modifier → Text → Prop
  | none => Json.Spelled .null
  | some m => m.Spelled

/-- A member of the object of a signature. The modifier may be given as null. -/
inductive Member where
  | modifier (m : Option Modifier)
  | returnType (t : Text)
  | methodName (t : Text)
  | arguments (as : List Argument)
  /-- A member that nobody asks for. -/
  | other (key : Text) (hkey : key ∉ [modifierKey, returnTypeKey, methodNameKey, argumentsKey])

namespace Member

def key : Member → Text
  | .modifier _ => modifierKey
  | .returnType _ => returnTypeKey
  | .methodName _ => methodNameKey
  | .arguments _ => argumentsKey
  | .other key _ => key

/-- The written forms of the value of a member. -/
def Holds : Member → Text → Prop
  | .modifier m => SpelledModifier m
  | .returnType t => SpelledString t
  | .methodName t => SpelledString t
  | .arguments as => SpelledList Argument.Spelled as
  | .other .. => WellFormed

end Member

/-- The objects of signatures. Only the modifier may be left out, and then there is none. -/
def shape : Shape Member Signature where
  key := Member.key
  known := [modifierKey, returnTypeKey, methodNameKey, argumentsKey]
  required := [returnTypeKey, methodNameKey, argumentsKey]
  Holds := Member.Holds
  MadeOf s members :=
    (.modifier s.modifier ∈ members ∨ modifierKey ∉ members.map Member.key ∧ s.modifier = none) ∧
      .returnType s.returnType ∈ members ∧ .methodName s.methodName ∈ members ∧
        .arguments s.arguments ∈ members

/-- A text is a written form of a signature. -/
inductive Spelled (s : Signature) : Text → Prop where
  | places {modifierText returnText nameText argumentsText inner : Text}
      (hmodifier : SpelledModifier s.modifier modifierText)
      (hreturn : SpelledString s.returnType returnText)
      (hname : SpelledString s.methodName nameText)
      (harguments : SpelledList Argument.Spelled s.arguments argumentsText)
      (hinner : Listed [modifierText, returnText, nameText, argumentsText] inner) :
      Spelled s ('[' :: inner ++ [']'])
  | members {members : List Member} {t : Text} (h : shape.Spelled members t)
      (hs : shape.Outcome members (.ok s)) : Spelled s t

end Signature

end Declarator
