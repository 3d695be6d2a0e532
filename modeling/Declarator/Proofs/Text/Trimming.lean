import Declarator.Signature.Grammar

/-!
# Gaps and trimming

A text is bare at an end where no blank character stands. Trimming takes a gap off either end and
leaves a text that is bare at both, and no other text lies between two gaps and is bare.

* `exists_gap_trimEnd`, `endsBare_trimEnd`: what trimming the end takes off, and what it leaves.
* `trim_append`, `exists_gaps_trim`: the trimmed text is the one between two gaps that is bare at
  both ends.
-/

namespace Declarator

/-! ### Gaps -/

@[simp] theorem isGap_nil : IsGap [] := by
  intro c hc
  cases hc

@[simp] theorem isGap_cons {c : Char} {t : Text} :
    IsGap (c :: t) ↔ isBlank c = true ∧ IsGap t := by
  simp [IsGap]

theorem isGap_append {s t : Text} : IsGap (s ++ t) ↔ IsGap s ∧ IsGap t := by
  simp [IsGap, or_imp, forall_and]

theorem isGap_space : IsGap [' '] := by
  simp only [isGap_cons, isGap_nil, and_true]
  decide

theorem isGap_takeWhile (t : Text) : IsGap (t.takeWhile isBlank) := by
  intro c hc
  exact List.all_eq_true.1 List.all_takeWhile c hc

theorem IsGap.not_mem {t : Text} (h : IsGap t) {c : Char} (hc : isBlank c = false) : c ∉ t := by
  intro hmem
  rw [h c hmem] at hc
  cases hc

namespace Text

theorem isAllBlank_iff {t : Text} : isAllBlank t = true ↔ IsGap t := by
  simp [isAllBlank, IsGap]

theorem dropWhile_gap_append {g : Text} (hg : IsGap g) (t : Text) :
    (g ++ t).dropWhile isBlank = t.dropWhile isBlank :=
  List.dropWhile_append_of_pos hg

/-- A run of characters that are not blank. -/
structure IsRun (w : Text) : Prop where
  ne_nil : w ≠ []
  not_blank : ∀ c ∈ w, isBlank c = false

/-! ### Bare ends -/

/-- The first character, if there is one, is not blank. -/
def StartsBare (t : Text) : Prop :=
  ∀ c ∈ t.head?, isBlank c = false

/-- The first character, if there is one, is blank. -/
def StartsBlank (t : Text) : Prop :=
  ∀ c ∈ t.head?, isBlank c = true

/-- The last character, if there is one, is not blank. -/
def EndsBare (t : Text) : Prop :=
  ∀ c ∈ t.getLast?, isBlank c = false

@[simp] theorem startsBare_nil : StartsBare [] := by simp [StartsBare]

@[simp] theorem startsBare_cons {c : Char} {t : Text} :
    StartsBare (c :: t) ↔ isBlank c = false := by
  simp [StartsBare]

theorem startsBlank_cons {c : Char} {t : Text} : StartsBlank (c :: t) ↔ isBlank c = true := by
  simp [StartsBlank]

@[simp] theorem endsBare_nil : EndsBare [] := by simp [EndsBare]

theorem endsBare_concat {t : Text} {c : Char} : EndsBare (t ++ [c]) ↔ isBlank c = false := by
  simp [EndsBare]

theorem EndsBare.of_append {s t : Text} (h : EndsBare (s ++ t)) : EndsBare t := by
  intro c hc
  exact h c (by simp [List.getLast?_append, Option.mem_def.1 hc])

theorem EndsBare.dropWhile {t : Text} (h : EndsBare t) (p : Char → Bool) :
    EndsBare (t.dropWhile p) := by
  rw [← List.takeWhile_append_dropWhile (p := p) (l := t)] at h
  exact h.of_append

/-- A text that ends bare is no gap, unless it is empty. -/
theorem EndsBare.eq_nil_of_isGap {t : Text} (h : EndsBare t) (hg : IsGap t) : t = [] := by
  rcases List.eq_nil_or_concat t with rfl | ⟨s, c, rfl⟩
  · rfl
  · have hc : isBlank c = true := hg c (by simp)
    rw [List.concat_eq_append, endsBare_concat, hc] at h
    cases h

theorem startsBare_dropWhile (t : Text) : StartsBare (t.dropWhile isBlank) := by
  intro c hc
  have := List.head?_dropWhile_not isBlank t
  rw [Option.mem_def.1 hc] at this
  exact this

theorem startsBlank_dropWhile (t : Text) : StartsBlank (t.dropWhile (!isBlank ·)) := by
  intro c hc
  have := List.head?_dropWhile_not (!isBlank ·) t
  rw [Option.mem_def.1 hc] at this
  simpa using this

theorem IsRun.startsBare {w : Text} (h : IsRun w) (t : Text) : StartsBare (w ++ t) := by
  cases w with
  | nil => exact absurd rfl h.ne_nil
  | cons c w => simpa using h.not_blank c (by simp)

theorem IsRun.endsBare {w : Text} (h : IsRun w) (t : Text) : EndsBare (t ++ w) := by
  intro c hc
  rw [List.getLast?_append, List.getLast?_eq_some_getLast h.ne_nil, Option.some_or] at hc
  exact h.not_blank c (Option.mem_some.1 hc ▸ List.getLast_mem h.ne_nil)

/-! ### Trimming -/

theorem trimEnd_gap {g : Text} (hg : IsGap g) : trimEnd g = [] :=
  trimEnd_eq_nil_iff.2 (isAllBlank_iff.2 hg)

theorem trimEnd_cons_bare {c : Char} (hc : isBlank c = false) (t : Text) :
    trimEnd (c :: t) = c :: trimEnd t := by
  cases h : trimEnd t <;> simp [trimEnd, h, hc]

theorem trimEnd_cons_of_ne_nil {t : Text} (h : trimEnd t ≠ []) (c : Char) :
    trimEnd (c :: t) = c :: trimEnd t := by
  obtain ⟨d, kept, hd⟩ := List.exists_cons_of_ne_nil h
  simp [trimEnd, hd]

/-- Only a gap is taken off the end. -/
theorem exists_gap_trimEnd (t : Text) : ∃ g, IsGap g ∧ t = trimEnd t ++ g := by
  induction t with
  | nil => exact ⟨[], isGap_nil, rfl⟩
  | cons c t ih =>
      obtain ⟨g, hg, ht⟩ := ih
      by_cases hc : isBlank c = true ∧ trimEnd t = []
      · refine ⟨c :: t, ?_, by simp [trimEnd, hc.1, hc.2]⟩
        rw [hc.2, List.nil_append] at ht
        rw [ht]
        exact isGap_cons.2 ⟨hc.1, hg⟩
      · refine ⟨g, hg, ?_⟩
        have he : trimEnd (c :: t) = c :: trimEnd t := by
          by_cases hn : trimEnd t = []
          · exact trimEnd_cons_bare (by simpa [hn] using hc) t
          · exact trimEnd_cons_of_ne_nil hn c
        rw [he, List.cons_append, ← ht]

theorem trimEnd_append_gap (t : Text) {g : Text} (hg : IsGap g) : trimEnd (t ++ g) = trimEnd t := by
  induction t with
  | nil => rw [List.nil_append, trimEnd_gap hg, trimEnd]
  | cons c t ih => simp only [List.cons_append, trimEnd, ih]

theorem endsBare_trimEnd (t : Text) : EndsBare (trimEnd t) := by
  induction t with
  | nil => simp [trimEnd]
  | cons c t ih =>
      cases h : trimEnd t with
      | nil =>
          by_cases hc : isBlank c = true
          · simp [trimEnd, h, hc]
          · simp [trimEnd, h, hc, EndsBare]
      | cons d kept =>
          rw [trimEnd_cons_of_ne_nil (by simp [h]), h]
          rw [h] at ih
          simpa [EndsBare] using ih

theorem EndsBare.trimEnd_eq {t : Text} (h : EndsBare t) : trimEnd t = t := by
  obtain ⟨g, hg, ht⟩ := exists_gap_trimEnd t
  have hnil : g = [] := by
    rw [ht] at h
    exact h.of_append.eq_nil_of_isGap hg
  rw [hnil, List.append_nil] at ht
  exact ht.symm

theorem trimEnd_append_cons {c : Char} (hc : isBlank c = false) (s t : Text) :
    trimEnd (s ++ c :: t) = s ++ c :: trimEnd t := by
  induction s with
  | nil => exact trimEnd_cons_bare hc t
  | cons d s ih =>
      rw [List.cons_append, trimEnd_cons_of_ne_nil (by simp [ih]), ih, List.cons_append]

theorem dropWhile_append_cons_bare {c : Char} (hc : isBlank c = false) (s t : Text) :
    (s ++ c :: t).dropWhile isBlank = s.dropWhile isBlank ++ c :: t := by
  induction s with
  | nil => simp [hc]
  | cons d s ih =>
      by_cases hd : isBlank d = true
      · simp [hd, ih]
      · simp [hd]

/-- Around a character that is not blank, the two sides are trimmed on their own. -/
theorem trim_append_cons {c : Char} (hc : isBlank c = false) (s t : Text) :
    trim (s ++ c :: t) = s.dropWhile isBlank ++ c :: trimEnd t := by
  rw [trim, dropWhile_append_cons_bare hc, trimEnd_append_cons hc]

/-- **Trimming finds the text between two gaps**, if that text is bare at both ends. -/
theorem trim_append {before t behind : Text} (hbefore : IsGap before) (hs : StartsBare t)
    (he : EndsBare t) (hbehind : IsGap behind) : trim (before ++ t ++ behind) = t := by
  rw [trim, List.append_assoc, dropWhile_gap_append hbefore]
  cases t with
  | nil =>
      have hnil := dropWhile_gap_append hbehind []
      rw [List.append_nil, List.dropWhile_nil] at hnil
      rw [List.nil_append, hnil, trimEnd]
  | cons c t =>
      rw [List.cons_append, List.dropWhile_cons_of_neg (by simpa using startsBare_cons.1 hs),
        ← List.cons_append, trimEnd_append_gap _ hbehind, he.trimEnd_eq]

theorem exists_gaps_trim (t : Text) :
    ∃ before behind, IsGap before ∧ IsGap behind ∧ t = before ++ trim t ++ behind := by
  obtain ⟨g, hg, ht⟩ := exists_gap_trimEnd (t.dropWhile isBlank)
  refine ⟨t.takeWhile isBlank, g, isGap_takeWhile t, hg, ?_⟩
  rw [trim, List.append_assoc, ← ht, List.takeWhile_append_dropWhile]

theorem isInfix_trim (t : Text) : trim t <:+: t := by
  obtain ⟨before, behind, -, -, ht⟩ := exists_gaps_trim t
  exact ⟨before, behind, ht.symm⟩

theorem endsBare_trim (t : Text) : EndsBare (trim t) :=
  endsBare_trimEnd _

theorem startsBare_trim (t : Text) : StartsBare (trim t) := by
  have h := startsBare_dropWhile t
  cases hd : t.dropWhile isBlank with
  | nil => simp [trim, hd, trimEnd]
  | cons c s =>
      rw [hd] at h
      rw [trim, hd, trimEnd_cons_bare (startsBare_cons.1 h)]
      exact startsBare_cons.2 (startsBare_cons.1 h)

/-! ### Trimmed texts -/

/-- A text with something in it that is bare at both ends. -/
structure IsTrimmed (t : Text) : Prop where
  ne_nil : t ≠ []
  starts : StartsBare t
  ends : EndsBare t

theorem isTrimmed_trim {t : Text} (h : trim t ≠ []) : IsTrimmed (trim t) :=
  ⟨h, startsBare_trim t, endsBare_trim t⟩

theorem isTrimmed_trimEnd {c : Char} (hc : isBlank c = false) (t : Text) :
    IsTrimmed (trimEnd (c :: t)) := by
  refine ⟨?_, ?_, endsBare_trimEnd _⟩
  · simp [trimEnd_cons_bare hc]
  · rw [trimEnd_cons_bare hc]
    exact startsBare_cons.2 hc

theorem IsTrimmed.exists_cons {t : Text} (h : IsTrimmed t) :
    ∃ c s, t = c :: s ∧ isBlank c = false := by
  obtain ⟨c, s, rfl⟩ := List.exists_cons_of_ne_nil h.ne_nil
  exact ⟨c, s, rfl, startsBare_cons.1 h.starts⟩

theorem IsRun.isTrimmed {w : Text} (h : IsRun w) : IsTrimmed w :=
  ⟨h.ne_nil, by simpa using h.startsBare [], by simpa using h.endsBare []⟩

theorem IsTrimmed.trim_eq {t : Text} (h : IsTrimmed t) : trim t = t := by
  simpa using trim_append isGap_nil h.starts h.ends isGap_nil

end Text

end Declarator
