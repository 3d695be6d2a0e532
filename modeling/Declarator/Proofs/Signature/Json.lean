import Declarator.Proofs.Signature.Spelling

/-!
# Signatures through JSON

What is written for a signature is its object. All written forms of that object, and so both layouts,
are written forms of the signature, and these are read.

* `Argument.spelled_of_toJson`, `Signature.spelled_of_toJson`: written forms of the object.
* `Signature.decode_toJson`: **what is written is read back**, as are arguments and modifiers.
-/

namespace Declarator

open Json

/-! ### Written forms of objects -/

namespace Json

theorem Spelled.spelledString {t s : Text} (h : Spelled (.string t) s) : SpelledString t s := by
  cases h with
  | string h => exact h

section Objects

variable {μ α : Type} {S : Shape μ α} (value : μ → Json) {members : List μ}

theorem forall₂_of_spelledMembers (hvalue : ∀ {m t}, Json.Spelled (value m) t → S.Holds m t)
    {parts : List Text}
    (h : SpelledMembers (members.map fun m => (S.key m, value m)) parts) :
    List.Forall₂ (fun m => SpelledMember (S.key m) (S.Holds m)) members parts := by
  induction members generalizing parts with
  | nil =>
      cases h
      exact .nil
  | cons m members ih =>
      cases h with
      | cons hkey hbefore hgap hpart hparts =>
          exact .cons (.mk hkey hbefore hgap (hvalue hpart)) (ih hparts)

/-- An object of members, each with a value that it allows. -/
theorem spelled_of_object (hvalue : ∀ {m t}, Json.Spelled (value m) t → S.Holds m t) {t : Text}
    (h : Json.Spelled (.object (members.map fun m => (S.key m, value m))) t) :
    S.Spelled members t := by
  cases h with
  | object hparts hinner => exact .mk (forall₂_of_spelledMembers value hvalue hparts) hinner

end Objects

end Json

/-! ### Arguments -/

namespace Argument

/-- The value that is written for a member. -/
def Member.value : Member → Json
  | .type t => .string t
  | .name t => .string t
  | .other .. => .null

theorem Member.holds_of_spelled {m : Member} {t : Text} (h : Json.Spelled m.value t) :
    m.Holds t := by
  cases m with
  | type _ => exact h.spelledString
  | name _ => exact h.spelledString
  | other _ _ =>
      cases h with
      | null => exact .null

theorem spelled_of_toJson {a : Argument} {t : Text} (h : Json.Spelled a.toJson t) : a.Spelled t := by
  have hmembers : shape.Spelled [.type a.type, .name a.name] t :=
    spelled_of_object Member.value Member.holds_of_spelled h
  have honce : [typeKey, nameKey].Nodup := by decide
  exact .members hmembers (.complete honce (fun _ hkey => hkey) (by simp [shape]))

theorem readsAs_reader (a : Argument) : ReadsAs reader a.toJson a :=
  fun _ h => reads_reader (spelled_of_toJson h)

end Argument

/-! ### Signatures -/

namespace Signature

theorem forall₂_of_spelledItems {arguments : List Argument} {parts : List Text}
    (h : SpelledItems (arguments.map Argument.toJson) parts) :
    List.Forall₂ Argument.Spelled arguments parts := by
  induction arguments generalizing parts with
  | nil =>
      cases h
      exact .nil
  | cons a arguments ih =>
      cases h with
      | cons h hs => exact .cons (Argument.spelled_of_toJson h) (ih hs)

theorem spelledList_of_toJson {arguments : List Argument} {t : Text}
    (h : Json.Spelled (.array (arguments.map Argument.toJson)) t) :
    SpelledList Argument.Spelled arguments t := by
  cases h with
  | array hparts hinner => exact .mk (forall₂_of_spelledItems hparts) hinner

theorem spelledModifier_of_toJson {m : Option Modifier} {t : Text}
    (h : Json.Spelled (m.elim .null Modifier.toJson) t) : SpelledModifier m t := by
  cases m with
  | none => exact h
  | some m => exact .inl h

/-- The value that is written for a member. -/
def Member.value : Member → Json
  | .modifier m => m.elim .null Modifier.toJson
  | .returnType t => .string t
  | .methodName t => .string t
  | .arguments as => .array (as.map Argument.toJson)
  | .other .. => .null

theorem Member.holds_of_spelled {m : Member} {t : Text} (h : Json.Spelled m.value t) :
    m.Holds t := by
  cases m with
  | modifier _ => exact spelledModifier_of_toJson h
  | returnType _ => exact h.spelledString
  | methodName _ => exact h.spelledString
  | arguments _ => exact spelledList_of_toJson h
  | other _ _ =>
      cases h with
      | null => exact .null

theorem spelled_of_toJson {s : Signature} {t : Text} (h : Json.Spelled s.toJson t) :
    s.Spelled t := by
  have hmembers : shape.Spelled [.modifier s.modifier, .returnType s.returnType,
      .methodName s.methodName, .arguments s.arguments] t :=
    spelled_of_object Member.value Member.holds_of_spelled h
  have honce : [modifierKey, returnTypeKey, methodNameKey, argumentsKey].Nodup := by decide
  exact .members hmembers (.complete honce (fun _ hkey => .tail _ hkey) (by simp [shape]))

theorem readsAs_reader (s : Signature) : ReadsAs reader s.toJson s :=
  fun _ h => reads_readerUnder .malformed (spelled_of_toJson h)

/-- Signatures, arguments and modifiers are each read back from both layouts that are written. -/
theorem decode_toJson :
    (∀ s : Signature, decode reader s.toJson.compact = .ok s ∧
      decode reader (s.toJson.pretty 0) = .ok s) ∧
    (∀ a : Argument, decode Argument.reader a.toJson.compact = .ok a ∧
      decode Argument.reader (a.toJson.pretty 0) = .ok a) ∧
    (∀ m : Modifier, decode Modifier.reader m.toJson.compact = .ok m ∧
      decode Modifier.reader (m.toJson.pretty 0) = .ok m) := by
  refine ⟨?_, ?_, ?_⟩
  · intro s
    exact (readsAs_reader s).decode_layouts
  · intro a
    exact a.readsAs_reader.decode_layouts
  · intro m
    exact (m.readsAs_readerUnder .malformed).decode_layouts

end Signature

end Declarator
