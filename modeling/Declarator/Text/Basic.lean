/-!
# Texts

A text is the list of its characters, so scanning one is recursion on a list and what is left of
it is again a text.

- `Text.width` : the number of bytes that a text takes in UTF-8.
- `Text.after?_eq_some_iff` : a text has an opening exactly when it is that opening and what
  follows it.
-/

namespace Declarator

/-- A text, first character first. -/
abbrev Text := List Char

namespace Text

/-- The number of bytes that a text takes in UTF-8. -/
def width : Text → Nat
  | [] => 0
  | c :: t => c.utf8Size + width t

@[simp] theorem width_nil : width [] = 0 := rfl

@[simp] theorem width_cons (c : Char) (t : Text) : width (c :: t) = c.utf8Size + width t := rfl

@[simp] theorem width_append (s t : Text) : width (s ++ t) = width s + width t := by
  induction s with
  | nil => simp
  | cons c s ih => simp only [List.cons_append, width_cons, ih, Nat.add_assoc]

/-- What follows `opening` in `t`, if `t` begins with it. -/
def after? : (opening t : Text) → Option Text
  | [], t => some t
  | _ :: _, [] => none
  | a :: opening, c :: t => if a = c then after? opening t else none

theorem after?_eq_some_iff {opening t rest : Text} :
    after? opening t = some rest ↔ t = opening ++ rest := by
  induction opening generalizing t with
  | nil => simp [after?]
  | cons a opening ih =>
      cases t with
      | nil => simp [after?]
      | cons c t =>
          by_cases h : a = c
          · simp [after?, h, ih]
          · simp [after?, h, Ne.symm h]

theorem after?_append (opening rest : Text) : after? opening (opening ++ rest) = some rest :=
  after?_eq_some_iff.2 rfl

theorem after?_eq_none_iff {opening t : Text} : after? opening t = none ↔ ¬ opening <+: t := by
  rw [Option.eq_none_iff_forall_ne_some]
  constructor
  · rintro h ⟨rest, rfl⟩
    exact h rest (after?_append opening rest)
  · intro h rest hrest
    exact h ⟨rest, (after?_eq_some_iff.1 hrest).symm⟩

end Text

end Declarator
