import Declarator.Proofs.Outline
import Declarator.Proofs.Text.Pieces

/-!
# The two layouts of outlines

On one line a part goes on to a comma and a space, or to the end of the brackets. On many lines it
goes on to a comma and the end of its line, and the depth of the next line says whether the line is
one more part or the end of the parts.

* `joined_append_inj`, `oneLine`: **outlines on one line**.
* `IsPlain.feed_not_mem_compact`: one line is enough for them.
* `block_append_inj`, `manyLines`: **outlines on many lines**.
-/

namespace Declarator.Outline

open Text

variable {α : Type} {f : α → Text} {xs ys : List α} {s t : Text}

/-! ### One line -/

theorem compactFields_eq_map (fields : List (Text × Outline)) :
    compactFields fields = fields.map fun f => label f.1 ++ compact f.2 := by
  induction fields with
  | nil => rfl
  | cons f fields ih => rw [compactFields, ih, List.map_cons]

theorem compactItems_eq_map (items : List Outline) : compactItems items = items.map compact := by
  induction items with
  | nil => rfl
  | cons item items ih => rw [compactItems, ih, List.map_cons]

/-- Brackets are closed by text that begins neither a name, nor a mark, nor one more part. -/
structure IsEnding (e : Text) : Prop where
  endsPart : ∀ s, EndsPart (e ++ s)
  ne_comma : ∀ s t, e ++ s ≠ ',' :: t

theorem isEnding_cons {c : Char} (hname : isNameChar c = false)
    (hmark : ∀ m ∈ marks, m.head? ≠ some c) (hcomma : c ≠ ',') : IsEnding [c] :=
  ⟨endsPart_cons hname hmark, fun _ _ he => hcomma (List.cons.inj he).1⟩

theorem isEnding_brace : IsEnding [' ', '}'] := by
  refine ⟨fun s => ⟨?_, ?_⟩, fun s t he => ?_⟩
  · intro c hc
    cases Option.some.inj hc
    decide
  · simp [marks]
  · cases (List.cons.inj he).1

/-- What stands behind a part in brackets ends that part. -/
theorem endsPart_further {e : Text} (he : IsEnding e) (xs : List α) (s : Text) :
    EndsPart (xs.flatMap (fun x => separator ++ f x) ++ (e ++ s)) := by
  cases xs with
  | nil => exact he.endsPart s
  | cons x xs => exact endsPart_comma _

/-- Parts each behind a separator, up to the end of the brackets. -/
theorem further_append_inj {e : Text} (hend : IsEnding e) (h : ∀ x ∈ xs, ∀ y ∈ ys, PartsTold f x y)
    (he : xs.flatMap (fun x => separator ++ f x) ++ (e ++ s) =
      ys.flatMap (fun y => separator ++ f y) ++ (e ++ t)) : xs = ys ∧ s = t := by
  induction xs generalizing ys with
  | nil =>
      cases ys with
      | nil => exact ⟨rfl, List.append_cancel_left he⟩
      | cons y ys => exact absurd he (hend.ne_comma s _)
  | cons x xs ih =>
      cases ys with
      | nil => exact absurd he.symm (hend.ne_comma t _)
      | cons y ys =>
          rw [List.flatMap_cons, List.flatMap_cons, List.append_assoc, List.append_assoc,
            List.append_assoc, List.append_assoc] at he
          obtain ⟨rfl, hrest⟩ := h x List.mem_cons_self y List.mem_cons_self
            (endsPart_further hend xs s) (endsPart_further hend ys t) (List.append_cancel_left he)
          obtain ⟨rfl, hst⟩ := ih (fun x' hx y' hy =>
            h x' (List.mem_cons_of_mem x hx) y' (List.mem_cons_of_mem x hy)) hrest
          exact ⟨rfl, hst⟩

theorem joined_map_cons (f : α → Text) (x : α) (xs : List α) :
    joined ((x :: xs).map f) = f x ++ xs.flatMap (fun x => separator ++ f x) := by
  rw [joined, List.map_cons, intercalate_cons, List.flatMap_map]

/-- **Parts on one line** are told if each part is told in front of what may stand behind it. -/
theorem joined_append_inj {e : Text} (hend : IsEnding e) (h : ∀ x ∈ xs, ∀ y ∈ ys, PartsTold f x y)
    (hxs : ∀ x ∈ xs, BeginsPart (f x)) (hys : ∀ y ∈ ys, BeginsPart (f y))
    (he : joined (xs.map f) ++ (e ++ s) = joined (ys.map f) ++ (e ++ t)) : xs = ys ∧ s = t := by
  -- Without parts the brackets are closed where the first part would begin.
  have hfirst : ∀ (x : α) (xs : List α) (s t : Text), BeginsPart (f x) →
      joined ((x :: xs).map f) ++ (e ++ s) ≠ e ++ t := by
    intro x xs s t hx he
    rw [joined_map_cons, List.append_assoc] at he
    exact hx _ (he ▸ hend.endsPart t)
  cases xs with
  | nil =>
      cases ys with
      | nil => exact ⟨rfl, List.append_cancel_left he⟩
      | cons y ys => exact absurd he.symm (hfirst y ys t s (hys y List.mem_cons_self))
  | cons x xs =>
      cases ys with
      | nil => exact absurd he (hfirst x xs s t (hxs x List.mem_cons_self))
      | cons y ys =>
          refine further_append_inj hend h ?_
          rw [joined_map_cons, joined_map_cons] at he
          simpa using he

/-- Parts on one line, behind what opens their brackets; braces have a space at either side. -/
def row : Brackets → List Text → Text
  | .braces, parts => ' ' :: joined parts ++ [' ', '}']
  | .parentheses, parts => joined parts ++ [')']
  | .square, parts => joined parts ++ [']']

theorem row_append_inj {b : Brackets} (h : ∀ x ∈ xs, ∀ y ∈ ys, PartsTold f x y)
    (hxs : ∀ x ∈ xs, BeginsPart (f x)) (hys : ∀ y ∈ ys, BeginsPart (f y))
    (he : row b (xs.map f) ++ s = row b (ys.map f) ++ t) : xs = ys ∧ s = t := by
  cases b with
  | braces =>
      rw [row, row, List.append_assoc, List.append_assoc] at he
      exact joined_append_inj isEnding_brace h hxs hys (List.cons.inj he).2
  | parentheses =>
      rw [row, row, List.append_assoc, List.append_assoc] at he
      exact joined_append_inj (isEnding_cons (by decide) (by decide) (by decide)) h hxs hys he
  | square =>
      rw [row, row, List.append_assoc, List.append_assoc] at he
      exact joined_append_inj (isEnding_cons (by decide) (by decide) (by decide)) h hxs hys he

/-- **Outlines on one line.** -/
def oneLine : Layout where
  write _ o := compact o
  enclose _ := row
  write_word _ _ := rfl
  write_quoted _ _ := rfl
  write_record _ name fields := by
    simp [compact, row, Brackets.opening, compactFields_eq_map]
  write_tuple _ name items := by
    simp [compact, row, Brackets.opening, compactItems_eq_map]
  write_list _ items := by
    simp [compact, row, Brackets.opening, compactItems_eq_map]
  enclose_append_inj := row_append_inj

theorem prettyFields_eq_map (margin : Nat) (fields : List (Text × Outline)) :
    prettyFields margin fields = fields.map fun f => label f.1 ++ pretty margin f.2 := by
  induction fields with
  | nil => rfl
  | cons f fields ih => rw [prettyFields, ih, List.map_cons]

theorem prettyItems_eq_map (margin : Nat) (items : List Outline) :
    prettyItems margin items = items.map (pretty margin) := by
  induction items with
  | nil => rfl
  | cons item items ih => rw [prettyItems, ih, List.map_cons]

/-- A part of a block: a line or more, the first `margin` columns in. -/
def entry (margin : Nat) (p : Text) : Text :=
  List.replicate margin ' ' ++ p ++ [',', '\n']

/-- **Parts on lines of their own** are told if each part is told in front of its comma. -/
theorem block_append_inj {margin : Nat} {opening : Text} {closing : Char} (hclosing : closing ≠ ' ')
    (h : ∀ x ∈ xs, ∀ y ∈ ys, PartsTold f x y)
    (he : block margin opening (xs.map f) closing ++ s =
      block margin opening (ys.map f) closing ++ t) :
    xs = ys ∧ s = t := by
  have hentry : ∀ x ∈ xs, ∀ y ∈ ys, TellsApart (fun x => entry (margin + 4) (f x)) x y := by
    intro x hx y hy u v huv
    have hcut : f x ++ ',' :: '\n' :: u = f y ++ ',' :: '\n' :: v := by
      simpa [entry] using huv
    obtain ⟨hxy, hrest⟩ := h x hx y hy (endsPart_comma _) (endsPart_comma _) hcut
    exact ⟨hxy, (List.cons.inj (List.cons.inj hrest).2).2⟩
  -- A part goes on with a space where the closing bracket would stand.
  have hend : ∀ (p u r : Text),
      entry (margin + 4) p ++ u ≠ List.replicate margin ' ' ++ closing :: r := by
    intro p u r hp
    have hspaces : List.replicate (margin + 4) ' ' = List.replicate margin ' ' ++ [' ', ' ', ' ', ' '] :=
      (List.replicate_append_replicate (m := 4)).symm
    rw [entry, hspaces, List.append_assoc, List.append_assoc, List.append_assoc] at hp
    exact hclosing (List.cons.inj (List.append_cancel_left hp)).1.symm
  have hparts : xs.flatMap (fun x => entry (margin + 4) (f x)) ++
        (List.replicate margin ' ' ++ closing :: s) =
      ys.flatMap (fun x => entry (margin + 4) (f x)) ++
        (List.replicate margin ' ' ++ closing :: t) := by
    simpa [block, entry, List.flatMap_map] using he
  obtain ⟨hxy, hrest⟩ := flatMap_append_inj hentry (fun y _ u => hend (f y) u s)
    (fun x _ u => hend (f x) u t) hparts
  exact ⟨hxy, (List.cons.inj (List.append_cancel_left hrest)).2⟩

/-- Parts on lines of their own, behind what opens their brackets; square brackets without parts
stand together. -/
def lines (margin : Nat) : Brackets → List Text → Text
  | .square, [] => [']']
  | b, parts => block margin [] parts b.closing

theorem lines_append_inj {margin : Nat} {b : Brackets} (h : ∀ x ∈ xs, ∀ y ∈ ys, PartsTold f x y)
    (he : lines margin b (xs.map f) ++ s = lines margin b (ys.map f) ++ t) : xs = ys ∧ s = t := by
  cases b with
  | braces => exact block_append_inj (by decide) h he
  | parentheses => exact block_append_inj (by decide) h he
  | square =>
      match xs, ys with
      | [], [] => exact ⟨rfl, List.append_cancel_left he⟩
      | [], _ :: _ => cases (List.cons.inj he).1
      | _ :: _, [] => cases (List.cons.inj he).1
      | _ :: _, _ :: _ => exact block_append_inj (by decide) h he

/-- **Outlines on many lines.** -/
def manyLines : Layout where
  write := pretty
  enclose := lines
  write_word _ _ := rfl
  write_quoted _ _ := rfl
  write_record margin name fields := by
    simp [pretty, lines, block, Brackets.opening, Brackets.closing, prettyFields_eq_map]
  write_tuple margin name items := by
    simp [pretty, lines, block, Brackets.opening, Brackets.closing, prettyItems_eq_map]
  write_list margin items := by
    cases items with
    | nil => rfl
    | cons item items =>
        simp [pretty, lines, block, Brackets.opening, Brackets.closing, prettyItems_eq_map]
  enclose_append_inj h _ _ he := lines_append_inj h he

end Declarator.Outline
