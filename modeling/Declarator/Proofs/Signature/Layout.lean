import Declarator.Proofs.Signature.Verdict

/-!
# Cutting a text at its parentheses

A text is read in two parts: what stands before its first opening parenthesis, and what stands
behind it. Blank characters around the text change neither part's words.

* `parse_append_cons`: both parts are read on their own, the part behind the parenthesis first.
* `listVerdict_eq_ok_iff`: which texts behind the parenthesis are read.
* `parse_eq_ok_iff`: which texts are read, and as what.
-/

namespace Declarator.Signature

open Parsing Text

/-! ### Before and behind the opening parenthesis -/

theorem verdict_append_cons {header : Text} (hne : header ≠ []) (hopen : '(' ∉ header)
    (list : Text) :
    verdict (header ++ '(' :: list) = (do
      let arguments ← listVerdict list
      let h ← Header.ofWords (words header)
      .ok ⟨h.modifier, h.returnType, h.methodName, arguments⟩) := by
  have hhead : (header ++ '(' :: list).head? ≠ some '(' := by
    obtain ⟨c, s, rfl⟩ := List.exists_cons_of_ne_nil hne
    intro h
    rw [List.cons_append, List.head?_cons, Option.some.injEq] at h
    exact hopen (by simp [h])
  have hmem : '(' ∈ header ++ '(' :: list := by simp
  rw [verdict, if_neg hhead, if_neg (not_not_intro hmem), beyond_append_cons hopen,
    upTo_append_cons hopen]

/-- **The two parts are read on their own**, the arguments before the words of the header. -/
theorem parse_append_cons {header : Text} (hne : ¬ IsGap header) (hopen : '(' ∉ header)
    (list : Text) :
    parse (header ++ '(' :: list) = (do
      let arguments ← listVerdict (trimEnd list)
      let h ← Header.ofWords (words header)
      .ok ⟨h.modifier, h.returnType, h.methodName, arguments⟩) := by
  have htrim : trim (header ++ '(' :: list) = header.dropWhile isBlank ++ '(' :: trimEnd list :=
    trim_append_cons (by decide) header list
  have hdrop : header.dropWhile isBlank ≠ [] := by
    intro h
    apply hne
    rw [← words_eq_nil_iff, ← words_dropWhile_blank, h, words_nil]
  have hnot : '(' ∉ header.dropWhile isBlank :=
    fun h => hopen ((List.dropWhile_sublist _).subset h)
  rw [parse_eq, htrim, if_neg (by simp), verdict_append_cons hdrop hnot, words_dropWhile_blank]

theorem parse_gap_append_cons {header : Text} (hgap : IsGap header) (list : Text) :
    parse (header ++ '(' :: list) = .error .missingReturnType := by
  have htrim : trim (header ++ '(' :: list) = header.dropWhile isBlank ++ '(' :: trimEnd list :=
    trim_append_cons (by decide) header list
  have hdrop := dropWhile_gap_append hgap []
  rw [List.append_nil, List.dropWhile_nil] at hdrop
  rw [hdrop, List.nil_append] at htrim
  rw [parse_eq, htrim, if_neg (by simp), verdict, if_pos (by simp)]

theorem not_isGap_of_ofWords_eq_ok {header : Text} {h : Header}
    (hheader : Header.ofWords (words header) = .ok h) : ¬ IsGap header := by
  intro hgap
  rw [words_gap hgap] at hheader
  cases hheader

theorem mem_of_parse_eq_ok {text : Text} {s : Signature} (h : parse text = .ok s) :
    '(' ∈ text := by
  rw [parse_eq] at h
  by_cases hnil : trim text = []
  · rw [if_pos hnil] at h
    cases h
  · rw [if_neg hnil, verdict] at h
    by_cases hmem : '(' ∈ trim text
    · exact (isInfix_trim text).subset hmem
    · rw [if_pos hmem] at h
      split at h <;> cases h

/-! ### Up to the closing parenthesis -/

theorem listVerdict_append_cons {inner : Text} (hclose : ')' ∉ inner) (behind : Text) :
    listVerdict (inner ++ ')' :: behind) = (do
      let arguments ← argumentsVerdict inner
      if behind = [] then .ok arguments else .error (.trailingInput behind)) := by
  have hmem : ')' ∈ inner ++ ')' :: behind := by simp
  rw [listVerdict, upTo_append_cons hclose, beyond_append_cons hclose]
  simp only [hmem, not_true_eq_false, if_false]

theorem listVerdict_of_not_mem {list : Text} (hclose : ')' ∉ list) :
    listVerdict list = (do
      let _ ← argumentsVerdict list
      .error .missingCloseParen) := by
  rw [listVerdict, upTo_of_not_mem hclose]
  simp only [hclose, not_false_eq_true, if_true]

theorem listVerdict_eq_ok_iff {list : Text} {arguments : List Argument} :
    listVerdict list = .ok arguments ↔
      ∃ inner, list = inner ++ [')'] ∧ ')' ∉ inner ∧ argumentsVerdict inner = .ok arguments := by
  constructor
  · intro h
    by_cases hclose : ')' ∈ list
    · obtain ⟨inner, behind, rfl, hinner⟩ := List.eq_append_cons_of_mem hclose
      rw [listVerdict_append_cons hinner, verdict_bind_eq_ok] at h
      obtain ⟨as, has, h⟩ := h
      by_cases hbehind : behind = []
      · rw [if_pos hbehind] at h
        cases h
        exact ⟨inner, by rw [hbehind], hinner, has⟩
      · rw [if_neg hbehind] at h
        cases h
    · rw [listVerdict_of_not_mem hclose, verdict_bind_eq_ok] at h
      obtain ⟨as, -, h⟩ := h
      cases h
  · rintro ⟨inner, rfl, hinner, has⟩
    rw [listVerdict_append_cons hinner, has]
    rfl

/-! ### Texts that are read -/

/-- **The texts that are read**: a header, and arguments between parentheses. -/
theorem parse_eq_ok_iff {text : Text} {s : Signature} :
    parse text = .ok s ↔ ∃ header inner behind,
      text = header ++ '(' :: inner ++ ')' :: behind ∧ '(' ∉ header ∧ ')' ∉ inner ∧ IsGap behind ∧
        Header.ofWords (words header) = .ok ⟨s.modifier, s.returnType, s.methodName⟩ ∧
        argumentsVerdict inner = .ok s.arguments := by
  constructor
  · intro h
    obtain ⟨header, list, rfl, hopen⟩ := List.eq_append_cons_of_mem (mem_of_parse_eq_ok h)
    by_cases hgap : IsGap header
    · rw [parse_gap_append_cons hgap] at h
      cases h
    rw [parse_append_cons hgap hopen, verdict_bind_eq_ok] at h
    obtain ⟨arguments, hlist, h⟩ := h
    obtain ⟨v, hheader, h⟩ := verdict_bind_eq_ok.1 h
    obtain ⟨inner, hinner, hclose, harguments⟩ := listVerdict_eq_ok_iff.1 hlist
    obtain ⟨behind, hbehind, hsplit⟩ := exists_gap_trimEnd list
    rw [hinner] at hsplit
    cases h
    exact ⟨header, inner, behind, by simp [hsplit], hopen, hclose, hbehind, hheader, harguments⟩
  · rintro ⟨header, inner, behind, rfl, hopen, hclose, hbehind, hheader, harguments⟩
    have hgap := not_isGap_of_ofWords_eq_ok hheader
    have hend : trimEnd (inner ++ ')' :: behind) = inner ++ [')'] := by
      rw [trimEnd_append_cons (by decide), trimEnd_gap hbehind]
    rw [List.append_assoc, List.cons_append, parse_append_cons hgap hopen, hend,
      listVerdict_eq_ok_iff.2 ⟨inner, rfl, hclose, harguments⟩, hheader]
    rfl

end Declarator.Signature
