import Declarator.Text.Pieces

/-!
# Cutting at separators

The two characters of the separator differ, so separators never overlap and none arises where two
texts are put together with a separator between them. Cutting is therefore additive, and a text
that is written with separators is cut back into its parts if no part holds one.

* `pieces_append_separator`: the pieces of two texts with a separator between them.
* `pieces_joined`, `pieces_joined_of_forall`: the pieces of a list that is written.
* `not_separator_infix_of_mem_pieces`: no piece holds a separator.
* `infix_of_mem_pieces`: the pieces stand in the text.
-/

namespace Declarator.Text

/-- A written list is its first part and, behind it, each other part behind a separator. -/
theorem intercalate_cons (separator p : Text) (ps : List Text) :
    separator.intercalate (p :: ps) = p ++ ps.flatMap (separator ++ ·) := by
  induction ps generalizing p with
  | nil => simp [List.intercalate]
  | cons q ps ih =>
      have hstep : separator.intercalate (p :: q :: ps) =
          p ++ (separator ++ separator.intercalate (q :: ps)) := by
        simp [List.intercalate]
      rw [hstep, ih, List.flatMap_cons, List.append_assoc]

theorem pieces_separator_append (t : Text) : pieces (',' :: ' ' :: t) = [] :: pieces t := by
  simp [pieces]

theorem pieces_cons {c : Char} {t : Text} (h : ¬ separator <+: c :: t) :
    pieces (c :: t) = (pieces t).modifyHead (c :: ·) := by
  rw [pieces]
  rintro s rfl rfl
  exact h (List.prefix_append separator s)

/-- **Cutting is additive**: with a separator between them, two texts are cut apart and each on
its own. -/
theorem pieces_append_separator (s t : Text) :
    pieces (s ++ separator ++ t) = pieces s ++ pieces t := by
  fun_induction pieces s with
  | case1 => exact pieces_separator_append t
  | case2 s ih => rw [List.cons_append, List.cons_append, List.cons_append, List.cons_append,
      pieces_separator_append, ih, List.cons_append]
  | case3 c s hsep ih =>
      obtain ⟨p, ps, hp⟩ := List.exists_cons_of_ne_nil (pieces_ne_nil s)
      have hcut : ¬ separator <+: c :: (s ++ separator ++ t) := by
        -- The comma could only be `c`, and what follows `c` begins with `s` or with a comma.
        cases s with
        | nil => simp [separator]
        | cons d s =>
            intro h
            simp only [separator, List.cons_append, List.cons_prefix_cons] at h
            exact hsep s h.1.symm (by rw [h.2.1])
      rw [List.cons_append, List.cons_append, pieces_cons hcut, ih, hp]
      rfl

/-- A list that is written is cut into the pieces of its parts. -/
theorem pieces_joined {parts : List Text} (hne : parts ≠ []) :
    pieces (joined parts) = parts.flatMap pieces := by
  induction parts with
  | nil => exact absurd rfl hne
  | cons p ps ih =>
      cases ps with
      | nil => simp
      | cons q ps =>
          rw [joined_cons_cons, pieces_append_separator, ih (by simp), ← List.flatMap_cons]

theorem prefix_of_pieces_eq_cons {t p : Text} {ps : List Text} (h : pieces t = p :: ps) :
    p <+: t := by
  have ht := joined_pieces t
  rw [h] at ht
  cases ps with
  | nil => exact ⟨[], by simpa using ht⟩
  | cons q ps => exact ⟨separator ++ joined (q :: ps), by simpa using ht⟩

/-- **No piece holds a separator.** -/
theorem not_separator_infix_of_mem_pieces {t p : Text} (h : p ∈ pieces t) :
    ¬ separator <:+: p := by
  fun_induction pieces t generalizing p with
  | case1 =>
      rw [List.mem_singleton.1 h]
      simp [separator]
  | case2 t ih =>
      rcases List.mem_cons.1 h with rfl | h
      · simp [separator]
      · exact ih h
  | case3 c t hsep ih =>
      obtain ⟨q, qs, hq⟩ := List.exists_cons_of_ne_nil (pieces_ne_nil t)
      rw [hq, List.modifyHead_cons] at h
      rcases List.mem_cons.1 h with rfl | h
      · intro hinfix
        rcases List.infix_cons_iff.1 hinfix with hprefix | hinfix
        · rw [separator, List.cons_prefix_cons] at hprefix
          obtain ⟨u, hu⟩ := hprefix.2.trans (prefix_of_pieces_eq_cons hq)
          exact hsep u hprefix.1.symm hu.symm
        · exact ih (by simp [hq]) hinfix
      · exact ih (by simp [hq, h])

theorem pieces_eq_singleton {t : Text} (h : ¬ separator <:+: t) : pieces t = [t] := by
  induction t with
  | nil => rfl
  | cons c t ih =>
      rw [pieces_cons (fun hp => h hp.isInfix), ih (fun hi => h (List.infix_cons hi))]
      rfl

/-- There is a space in every separator. -/
theorem not_separator_infix_of_not_mem {t : Text} (h : ' ' ∉ t) : ¬ separator <:+: t :=
  fun hi => h (hi.subset (by simp [separator]))

/-- **Parts without separators** are what a written list of them is cut into. -/
theorem pieces_joined_of_forall {parts : List Text} (hne : parts ≠ [])
    (h : ∀ p ∈ parts, ¬ separator <:+: p) : pieces (joined parts) = parts := by
  rw [pieces_joined hne]
  clear hne
  induction parts with
  | nil => rfl
  | cons p ps ih =>
      rw [List.flatMap_cons, pieces_eq_singleton (h p (by simp)),
        ih fun q hq => h q (List.mem_cons_of_mem p hq), List.singleton_append]

/-- The parts of a list stand in the list as it is written. -/
theorem infix_joined_of_mem {parts : List Text} {p : Text} (h : p ∈ parts) :
    p <:+: joined parts := by
  induction parts with
  | nil => cases h
  | cons q qs ih =>
      cases qs with
      | nil =>
          obtain rfl := List.mem_singleton.1 h
          exact ⟨[], [], by simp⟩
      | cons r rs =>
          rw [joined_cons_cons]
          rcases List.mem_cons.1 h with rfl | h
          · exact ((List.prefix_append _ _).trans (List.prefix_append _ _)).isInfix
          · exact (ih h).trans (List.suffix_append _ _).isInfix

theorem infix_of_mem_pieces {t p : Text} (h : p ∈ pieces t) : p <:+: t := by
  have hp := infix_joined_of_mem h
  rwa [joined_pieces] at hp

theorem not_mem_between {c : Char} {before t behind : Text} (hbefore : c ∉ before)
    (ht : c ∉ t) (hbehind : c ∉ behind) : c ∉ before ++ t ++ behind := by
  rw [List.mem_append, List.mem_append, not_or, not_or]
  exact ⟨⟨hbefore, ht⟩, hbehind⟩

theorem not_mem_joined {parts : List Text} {c : Char} (hsep : c ∉ separator)
    (h : ∀ p ∈ parts, c ∉ p) : c ∉ joined parts := by
  induction parts with
  | nil => simp
  | cons p ps ih =>
      obtain ⟨hp, hps⟩ := List.forall_mem_cons.1 h
      cases ps with
      | nil => simpa using hp
      | cons q ps =>
          rw [joined_cons_cons]
          exact not_mem_between hp hsep (ih hps)

end Declarator.Text
