import Declarator.Outline
import Declarator.Proofs.Text.Quoted

/-!
# Outlines are told by their text

An outline whose words and names are made of letters, digits and underscores can be read off its
text, on one line or on many. The characters behind a name say what kind of outline it is, and what
stands behind a part says whether one more part follows; no text in quotes bears on either. A layout
has only to see to it that enclosed parts are told if each part is.

* `IsName`, `name_append_inj`: words and names.
* `IsPlain`: plain outlines, whose words and names are of this kind.
* `EndsPart`: what may stand behind a part of an outline.
* `Layout`: a way of writing outlines.
* `Layout.isTold_of_isPlain`: **plain outlines**, in any layout and whatever follows.
-/

namespace Declarator.Outline

open Text

/-! ### Words and names -/

/-- A character of a word or a name. -/
def isNameChar (c : Char) : Bool :=
  c.isAlphanum || c == '_'

/-- A word or a name. -/
structure IsName (w : Text) : Prop where
  ne_nil : w ≠ []
  isNameChar : ∀ c ∈ w, isNameChar c = true

instance (w : Text) : Decidable (IsName w) :=
  decidable_of_iff (w ≠ [] ∧ w.all Outline.isNameChar = true)
    ⟨fun h => ⟨h.1, List.all_eq_true.1 h.2⟩, fun h => ⟨h.1, List.all_eq_true.2 h.2⟩⟩

/-- The text does not go on with a character of a name. -/
def EndsName (s : Text) : Prop :=
  ∀ c ∈ s.head?, isNameChar c = false

instance (s : Text) : Decidable (EndsName s) :=
  decidable_of_iff (s.head?.all (!isNameChar ·) = true) (by simp [EndsName, Option.all_eq_true])

theorem name_append_inj {v w s t : Text} (hv : ∀ c ∈ v, isNameChar c = true)
    (hw : ∀ c ∈ w, isNameChar c = true) (hs : EndsName s) (ht : EndsName t)
    (he : v ++ s = w ++ t) : v = w ∧ s = t := by
  have hvw : v = w := by
    rw [← takeWhile_append_of_head? hv hs, he, takeWhile_append_of_head? hw ht]
  rw [hvw] at he
  exact ⟨hvw, List.append_cancel_left he⟩

theorem endsName_colon (s : Text) : EndsName (':' :: s) := by
  intro c hc
  cases Option.some.inj hc
  decide

theorem IsName.feed_not_mem {w : Text} (h : IsName w) : '\n' ∉ w :=
  fun hfeed => absurd (h.isNameChar '\n' hfeed) (by decide)

theorem IsName.not_endsName_append {w : Text} (h : IsName w) (u : Text) : ¬ EndsName (w ++ u) := by
  intro hends
  obtain ⟨c, w', rfl⟩ := List.exists_cons_of_ne_nil h.ne_nil
  have hc := hends c rfl
  rw [h.isNameChar c List.mem_cons_self] at hc
  cases hc

/-! ### Plain outlines -/

/-- An outline whose words and names are made of letters, digits and underscores. -/
inductive IsPlain : Outline → Prop where
  | word {w : Text} (h : IsName w) : IsPlain (.word w)
  | quoted (t : Text) : IsPlain (.quoted t)
  | record {name : Text} {fields : List (Text × Outline)} (hname : IsName name)
      (hlabels : ∀ f ∈ fields, IsName f.1) (h : ∀ f ∈ fields, IsPlain f.2) :
      IsPlain (.record name fields)
  | tuple {name : Text} {items : List Outline} (hname : IsName name)
      (h : ∀ item ∈ items, IsPlain item) : IsPlain (.tuple name items)
  | list {items : List Outline} (h : ∀ item ∈ items, IsPlain item) : IsPlain (.list items)

/-- The name at the front of an outline. -/
def name : Outline → Text
  | .word w => w
  | .record name _ | .tuple name _ => name
  | .quoted _ | .list _ => []

theorem IsPlain.isNameChar_of_mem_name {o : Outline} (h : IsPlain o) :
    ∀ c ∈ o.name, isNameChar c = true := by
  cases h with
  | word h => exact h.isNameChar
  | quoted t => simp [name]
  | record hname _ _ => exact hname.isNameChar
  | tuple hname _ => exact hname.isNameChar
  | list _ => simp [name]

/-- The brackets around parts. -/
inductive Brackets where
  | braces
  | parentheses
  | square

/-- What opens brackets. A brace does not stand next to the name. -/
def Brackets.opening : Brackets → Text
  | .braces => [' ', '{']
  | .parentheses => ['(']
  | .square => ['[']

def Brackets.closing : Brackets → Char
  | .braces => '}'
  | .parentheses => ')'
  | .square => ']'

/-- The mark behind that name, which says what kind of outline it is; a word has none. -/
def mark : Outline → Text
  | .word _ => []
  | .quoted _ => ['"']
  | .record _ _ => Brackets.braces.opening
  | .tuple _ _ => Brackets.parentheses.opening
  | .list _ => Brackets.square.opening

/-- Every mark once. -/
def marks : List Text := [['"'], [' ', '{'], ['('], ['[']]

theorem mark_mem_marks {o : Outline} (h : o.mark ≠ []) : o.mark ∈ marks := by
  cases o with
  | word w => exact absurd rfl h
  | _ => simp [mark, marks, Brackets.opening]

/-- No mark is the beginning of another. -/
theorem eq_of_prefix_marks {m n t : Text} (hm : m ∈ marks) (hn : n ∈ marks) (h : m <+: t)
    (h' : n <+: t) : m = n := by
  have hall : ∀ m ∈ marks, ∀ n ∈ marks, m <+: n → m = n := by decide
  rcases List.prefix_or_prefix_of_prefix h h' with hmn | hnm
  · exact hall m hm n hn hmn
  · exact (hall n hn m hm hnm).symm

theorem endsName_of_prefix_marks {m t : Text} (hm : m ∈ marks) (h : m <+: t) : EndsName t := by
  have hall : ∀ m ∈ marks, m ≠ [] ∧ EndsName m := by decide
  obtain ⟨r, rfl⟩ := h
  obtain ⟨hne, hends⟩ := hall m hm
  obtain ⟨c, m', rfl⟩ := List.exists_cons_of_ne_nil hne
  exact hends

/-- The end of a part: the text goes on neither with the name of the part nor with a mark. -/
structure EndsPart (s : Text) : Prop where
  endsName : EndsName s
  not_prefix : ∀ m ∈ marks, ¬ m <+: s

theorem endsPart_nil : EndsPart [] :=
  ⟨by simp [EndsName], by decide⟩

theorem endsPart_cons {c : Char} (hname : isNameChar c = false)
    (hmark : ∀ m ∈ marks, m.head? ≠ some c) (s : Text) : EndsPart (c :: s) := by
  refine ⟨fun d hd => Option.some.inj hd ▸ hname, fun m hm hprefix => ?_⟩
  have hne : ∀ m ∈ marks, m ≠ [] := by decide
  obtain ⟨d, m', rfl⟩ := List.exists_cons_of_ne_nil (hne m hm)
  exact hmark _ hm (congrArg some (List.cons_prefix_cons.1 hprefix).1)

theorem endsPart_comma (s : Text) : EndsPart (',' :: s) :=
  endsPart_cons (by decide) (by decide) s

/-- The text of a part begins as no end of a part does. -/
def BeginsPart (p : Text) : Prop :=
  ∀ u, ¬ EndsPart (p ++ u)

theorem IsName.beginsPart_append {w : Text} (h : IsName w) (t : Text) : BeginsPart (w ++ t) := by
  intro u hends
  rw [List.append_assoc] at hends
  exact h.not_endsName_append (t ++ u) hends.endsName

/-- In front of the ends of parts, the text of `x` is that of `y` only if `x` is `y`. -/
def PartsTold {α : Type} (f : α → Text) (x y : α) : Prop :=
  ∀ ⦃u v⦄, EndsPart u → EndsPart v → f x ++ u = f y ++ v → x = y ∧ u = v

/-! ### Layouts -/

/-- A way of writing outlines, with what a reader can rely on: an outline is its name, its mark and
what it holds, and enclosed parts are told if each of them is. -/
structure Layout where
  /-- An outline; the lines after the first, if any, begin some columns in. -/
  write : Nat → Outline → Text
  /-- Parts, behind what opens their brackets. -/
  enclose : Nat → Brackets → List Text → Text
  write_word (margin : Nat) (w : Text) : write margin (.word w) = w
  write_quoted (margin : Nat) (t : Text) : write margin (.quoted t) = Text.quoted t
  write_record (margin : Nat) (name : Text) (fields : List (Text × Outline)) :
    write margin (.record name fields) = name ++ (Brackets.braces.opening ++
      enclose margin .braces (fields.map fun f => label f.1 ++ write (margin + 4) f.2))
  write_tuple (margin : Nat) (name : Text) (items : List Outline) :
    write margin (.tuple name items) = name ++ (Brackets.parentheses.opening ++
      enclose margin .parentheses (items.map (write (margin + 4))))
  write_list (margin : Nat) (items : List Outline) :
    write margin (.list items) = Brackets.square.opening ++
      enclose margin .square (items.map (write (margin + 4)))
  enclose_append_inj {α : Type} {f : α → Text} {xs ys : List α} {margin : Nat} {b : Brackets}
    {s t : Text} (htold : ∀ x ∈ xs, ∀ y ∈ ys, PartsTold f x y) (hxs : ∀ x ∈ xs, BeginsPart (f x))
    (hys : ∀ y ∈ ys, BeginsPart (f y))
    (he : enclose margin b (xs.map f) ++ s = enclose margin b (ys.map f) ++ t) : xs = ys ∧ s = t

namespace Layout

variable (L : Layout) {margin : Nat} {s t : Text}

/-- What follows the name at the front of an outline. -/
def behindName (margin : Nat) : Outline → Text
  | .word _ => []
  | .quoted t => Text.quoted t
  | .record _ fields => Brackets.braces.opening ++
      L.enclose margin .braces (fields.map fun f => label f.1 ++ L.write (margin + 4) f.2)
  | .tuple _ items => Brackets.parentheses.opening ++
      L.enclose margin .parentheses (items.map (L.write (margin + 4)))
  | .list items => Brackets.square.opening ++
      L.enclose margin .square (items.map (L.write (margin + 4)))

theorem write_eq (margin : Nat) (o : Outline) :
    L.write margin o = o.name ++ L.behindName margin o := by
  cases o with
  | word w => rw [L.write_word, behindName, List.append_nil, name]
  | quoted t => exact L.write_quoted margin t
  | record name fields => exact L.write_record margin name fields
  | tuple name items => exact L.write_tuple margin name items
  | list items => exact L.write_list margin items

theorem mark_prefix (margin : Nat) (o : Outline) : o.mark <+: L.behindName margin o := by
  cases o with
  | word w => exact List.nil_prefix
  | quoted t => exact ⟨t.flatMap escape ++ ['"'], rfl⟩
  | record name fields => exact List.prefix_append _ _
  | tuple name items => exact List.prefix_append _ _
  | list items => exact List.prefix_append _ _

/-- Without a mark an outline is its name. -/
theorem behindName_of_mark_eq_nil {o : Outline} (h : o.mark = []) : L.behindName margin o = [] := by
  cases o with
  | word w => rfl
  | _ => simp [mark, Brackets.opening] at h

theorem prefix_behindName_append (margin : Nat) (o : Outline) (s : Text) :
    o.mark <+: L.behindName margin o ++ s :=
  (L.mark_prefix margin o).trans (List.prefix_append _ s)

theorem endsName_behindName_append {o : Outline} (hs : EndsPart s) :
    EndsName (L.behindName margin o ++ s) := by
  by_cases ho : o.mark = []
  · rw [L.behindName_of_mark_eq_nil ho]
    exact hs.endsName
  · exact endsName_of_prefix_marks (mark_mem_marks ho) (L.prefix_behindName_append margin o s)

/-- The mark is all that can stand behind a name, unless the part ends there. -/
theorem mark_eq_of_behindName_append_eq {o o' : Outline} (hs : EndsPart s) (ht : EndsPart t)
    (he : L.behindName margin o ++ s = L.behindName margin o' ++ t) : o.mark = o'.mark := by
  have ho := L.prefix_behindName_append margin o s
  have ho' := L.prefix_behindName_append margin o' t
  by_cases hmark : o.mark = []
  · by_cases hmark' : o'.mark = []
    · rw [hmark, hmark']
    · rw [← he, L.behindName_of_mark_eq_nil hmark] at ho'
      exact absurd ho' (hs.not_prefix _ (mark_mem_marks hmark'))
  · by_cases hmark' : o'.mark = []
    · rw [he, L.behindName_of_mark_eq_nil hmark'] at ho
      exact absurd ho (ht.not_prefix _ (mark_mem_marks hmark))
    · exact eq_of_prefix_marks (mark_mem_marks hmark) (mark_mem_marks hmark') (he ▸ ho) ho'

/-- Outlines with the same text begin with the same name and are of the same kind. -/
theorem eq_of_write_append_eq {o o' : Outline} (h : IsPlain o) (h' : IsPlain o') (hs : EndsPart s)
    (ht : EndsPart t) (he : L.write margin o ++ s = L.write margin o' ++ t) :
    o.name = o'.name ∧ o.mark = o'.mark ∧
      L.behindName margin o ++ s = L.behindName margin o' ++ t := by
  rw [L.write_eq, L.write_eq, List.append_assoc, List.append_assoc] at he
  obtain ⟨hnames, hbehind⟩ := name_append_inj h.isNameChar_of_mem_name h'.isNameChar_of_mem_name
    (L.endsName_behindName_append hs) (L.endsName_behindName_append ht) he
  exact ⟨hnames, L.mark_eq_of_behindName_append_eq hs ht hbehind, hbehind⟩

theorem beginsPart_write {o : Outline} (h : IsPlain o) : BeginsPart (L.write margin o) := by
  -- Without a name there is a mark.
  have hfront : IsName o.name ∨ o.name = [] ∧ o.mark ≠ [] := by
    cases h with
    | word h => exact .inl h
    | quoted t => exact .inr ⟨rfl, by simp [mark]⟩
    | record hname _ _ => exact .inl hname
    | tuple hname _ => exact .inl hname
    | list _ => exact .inr ⟨rfl, by simp [mark, Brackets.opening]⟩
  rw [L.write_eq]
  rcases hfront with hname | ⟨hname, hmark⟩
  · exact hname.beginsPart_append _
  · intro u hends
    rw [hname, List.nil_append] at hends
    exact hends.not_prefix _ (mark_mem_marks hmark) (L.prefix_behindName_append margin o u)

/-! ### Plain outlines are told -/

/-- No other plain outline has the text of `o`, whatever follows the part that it is. -/
def IsTold (o : Outline) : Prop :=
  ∀ ⦃o' : Outline⦄, IsPlain o' → ∀ ⦃margin : Nat⦄ ⦃s t : Text⦄, EndsPart s → EndsPart t →
    L.write margin o ++ s = L.write margin o' ++ t → o = o' ∧ s = t

theorem isTold_word {w : Text} (h : IsName w) : L.IsTold (.word w) := by
  intro o' h' margin s t hs ht he
  obtain ⟨hnames, hmark, hbehind⟩ := L.eq_of_write_append_eq (.word h) h' hs ht he
  cases h' with
  | word _ =>
      cases hnames
      exact ⟨rfl, hbehind⟩
  | _ => simp [mark, Brackets.opening] at hmark

theorem isTold_quoted (q : Text) : L.IsTold (.quoted q) := by
  intro o' h' margin s t hs ht he
  obtain ⟨-, hmark, hbehind⟩ := L.eq_of_write_append_eq (.quoted q) h' hs ht he
  cases h' with
  | quoted r =>
      obtain ⟨rfl, hst⟩ := tellsApart_quoted q r hbehind
      exact ⟨rfl, hst⟩
  | _ => simp [mark, Brackets.opening] at hmark

/-- A field is told by its label and its value. -/
theorem partsTold_field {f f' : Text × Outline} (hlabel : IsName f.1) (hlabel' : IsName f'.1)
    (h' : IsPlain f'.2) (ih : L.IsTold f.2) :
    PartsTold (fun f => label f.1 ++ L.write margin f.2) f f' := by
  intro u v hu hv huv
  simp only [label, List.append_assoc] at huv
  obtain ⟨hlabels, hrest⟩ := name_append_inj hlabel.isNameChar hlabel'.isNameChar
    (endsName_colon _) (endsName_colon _) huv
  have hvalues := (List.cons.inj (List.cons.inj hrest).2).2
  obtain ⟨hvalue, htail⟩ := ih h' hu hv hvalues
  exact ⟨Prod.ext hlabels hvalue, htail⟩

theorem isTold_record {name : Text} {fields : List (Text × Outline)}
    (h : IsPlain (.record name fields)) (ih : ∀ f ∈ fields, L.IsTold f.2) :
    L.IsTold (.record name fields) := by
  intro o' h' margin s t hs ht he
  obtain ⟨hnames, hmark, hbehind⟩ := L.eq_of_write_append_eq h h' hs ht he
  cases h' with
  | @record name' fields' _ hlabels' hvalues' =>
      cases h with
      | record _ hlabels hvalues =>
          have hfields : ∀ f ∈ fields, ∀ f' ∈ fields',
              PartsTold (fun f => label f.1 ++ L.write (margin + 4) f.2) f f' :=
            fun f hf f' hf' =>
              L.partsTold_field (hlabels f hf) (hlabels' f' hf') (hvalues' f' hf') (ih f hf)
          have hbegins : ∀ f : Text × Outline, IsName f.1 →
              BeginsPart (label f.1 ++ L.write (margin + 4) f.2) := by
            intro f hf
            rw [label, List.append_assoc]
            exact hf.beginsPart_append _
          cases hnames
          rw [behindName, behindName, List.append_assoc, List.append_assoc] at hbehind
          obtain ⟨rfl, hst⟩ := L.enclose_append_inj hfields (fun f hf => hbegins f (hlabels f hf))
            (fun f hf => hbegins f (hlabels' f hf)) (List.append_cancel_left hbehind)
          exact ⟨rfl, hst⟩
  | _ => simp [mark, Brackets.opening] at hmark

/-- What is known of each item is known of items in brackets. -/
theorem items_append_inj {items items' : List Outline} (ih : ∀ item ∈ items, L.IsTold item)
    (h : ∀ item ∈ items, IsPlain item) (h' : ∀ item ∈ items', IsPlain item) {b : Brackets}
    (he : b.opening ++ L.enclose margin b (items.map (L.write (margin + 4))) ++ s =
      b.opening ++ L.enclose margin b (items'.map (L.write (margin + 4))) ++ t) :
    items = items' ∧ s = t := by
  rw [List.append_assoc, List.append_assoc] at he
  exact L.enclose_append_inj (fun item hitem item' hitem' u v hu hv huv =>
      ih item hitem (h' item' hitem') hu hv huv)
    (fun item hitem => L.beginsPart_write (h item hitem))
    (fun item hitem => L.beginsPart_write (h' item hitem)) (List.append_cancel_left he)

theorem isTold_tuple {name : Text} {items : List Outline} (h : IsPlain (.tuple name items))
    (ih : ∀ item ∈ items, L.IsTold item) : L.IsTold (.tuple name items) := by
  intro o' h' margin s t hs ht he
  obtain ⟨hnames, hmark, hbehind⟩ := L.eq_of_write_append_eq h h' hs ht he
  cases h' with
  | tuple _ hitems' =>
      cases h with
      | tuple _ hitems =>
          cases hnames
          obtain ⟨rfl, hst⟩ := L.items_append_inj ih hitems hitems' hbehind
          exact ⟨rfl, hst⟩
  | _ => simp [mark, Brackets.opening] at hmark

theorem isTold_list {items : List Outline} (h : IsPlain (.list items))
    (ih : ∀ item ∈ items, L.IsTold item) : L.IsTold (.list items) := by
  intro o' h' margin s t hs ht he
  obtain ⟨-, hmark, hbehind⟩ := L.eq_of_write_append_eq h h' hs ht he
  cases h' with
  | list hitems' =>
      cases h with
      | list hitems =>
          obtain ⟨rfl, hst⟩ := L.items_append_inj ih hitems hitems' hbehind
          exact ⟨rfl, hst⟩
  | _ => simp [mark, Brackets.opening] at hmark

/-- **Plain outlines are told by their text**, whatever follows the part that they are. -/
theorem isTold_of_isPlain {o : Outline} (h : IsPlain o) : L.IsTold o := by
  induction h with
  | word h => exact L.isTold_word h
  | quoted q => exact L.isTold_quoted q
  | record hname hlabels h ih => exact L.isTold_record (.record hname hlabels h) ih
  | tuple hname h ih => exact L.isTold_tuple (.tuple hname h) ih
  | list h ih => exact L.isTold_list (.list h) ih

end Layout

end Declarator.Outline
