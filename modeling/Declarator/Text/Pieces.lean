import Declarator.Text.Basic

/-!
# Pieces between separators

A list written in a text has a comma and one space between its entries; no other spelling
separates.

- `Text.pieces` : the parts of a text between separators.
- `Text.joined` : the parts of a list, written with separators between them.
- `Text.joined_pieces` : cutting loses nothing.
-/

namespace Declarator.Text

/-- The separator between the entries of a list: a comma and one space. -/
def separator : Text := [',', ' ']

/-- The parts of a text between separators, the leftmost separator first. There is always at
least one part. -/
def pieces : Text → List Text
  | [] => [[]]
  | ',' :: ' ' :: t => [] :: pieces t
  | c :: t => (pieces t).modifyHead (c :: ·)

/-- The parts in order with a separator between neighbours. -/
def joined (parts : List Text) : Text :=
  separator.intercalate parts

@[simp] theorem joined_nil : joined [] = [] := rfl

@[simp] theorem joined_singleton (p : Text) : joined [p] = p := by
  simp [joined, List.intercalate]

@[simp] theorem joined_cons_cons (p q : Text) (ps : List Text) :
    joined (p :: q :: ps) = p ++ separator ++ joined (q :: ps) := by
  simp [joined, List.intercalate]

theorem pieces_ne_nil (t : Text) : pieces t ≠ [] := by
  fun_induction pieces t <;> simp_all

theorem joined_modifyHead_cons (c : Char) {parts : List Text} (h : parts ≠ []) :
    joined (parts.modifyHead (c :: ·)) = c :: joined parts := by
  match parts, h with
  | [p], _ => simp
  | p :: q :: ps, _ => simp

theorem joined_pieces (t : Text) : joined (pieces t) = t := by
  fun_induction pieces t with
  | case1 => simp
  | case2 t ih =>
      obtain ⟨p, ps, h⟩ := List.exists_cons_of_ne_nil (pieces_ne_nil t)
      rw [h, joined_cons_cons, ← h, ih]
      rfl
  | case3 c t _ ih => rw [joined_modifyHead_cons c (pieces_ne_nil t), ih]

end Declarator.Text
