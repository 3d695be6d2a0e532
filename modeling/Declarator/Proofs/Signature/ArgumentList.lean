import Declarator.Proofs.Signature.Layout
import Declarator.Proofs.Text.Pieces

/-!
# Argument lists on their own

An argument list may stand alone or behind a header. Standing alone it is trimmed by itself; behind
a header it is trimmed with the whole text, and the blank characters before its parenthesis fall to
the header. Neither changes what it is read as. Nor does it matter for the entries of a list whether
other entries stand in front of them or behind them.

* `parseArguments_gap_append_cons`: a list that stands alone.
* `parse_append_parens`: a header with an empty list.
* `parse_append_eq_bind`: **a header and a list** are read as the list alone and the header with an
  empty list.
* `parseArguments_append_separator`: **two lists in one** are read as each of them alone.
-/

namespace Declarator.Signature

open Parsing Text

/-- A text whose first character that is not blank is `c` begins with a gap and `c`. -/
theorem exists_gap_append_cons {t : Text} {c : Char} (h : (t.dropWhile isBlank).head? = some c) :
    ∃ gap rest, IsGap gap ∧ t = gap ++ c :: rest := by
  obtain ⟨rest, hrest⟩ := List.head?_eq_some_iff.1 h
  have ht := List.takeWhile_append_dropWhile (p := isBlank) (l := t)
  rw [hrest] at ht
  exact ⟨t.takeWhile isBlank, rest, isGap_takeWhile t, ht.symm⟩

theorem parseArguments_gap_append_cons {gap : Text} (hgap : IsGap gap) (list : Text) :
    parseArguments (gap ++ '(' :: list) = listVerdict (trimEnd list) := by
  have hdrop : gap.dropWhile isBlank = [] := by simpa using dropWhile_gap_append hgap []
  have htrim : trim (gap ++ '(' :: list) = '(' :: trimEnd list := by
    rw [trim_append_cons (by decide), hdrop, List.nil_append]
  rw [parseArguments, htrim, closedParameterList_cons, Outcome.settle_ofVerdict]

theorem parse_append_parens {header : Text} (hne : ¬ IsGap header) (hopen : '(' ∉ header) :
    parse (header ++ ['(', ')']) = (do
      let h ← Header.ofWords (words header)
      .ok ⟨h.modifier, h.returnType, h.methodName, []⟩) := by
  have hend : trimEnd [')'] = [')'] := trimEnd_cons_bare (by decide) []
  have hlist : listVerdict [')'] = .ok [] :=
    listVerdict_eq_ok_iff.2 ⟨[], rfl, by simp, argumentsVerdict_of_isGap isGap_nil⟩
  rw [parse_append_cons hne hopen, hend, hlist]
  rfl

/-- **A signature is its argument list and its header.** Whatever the header is, a list that is
refused alone is refused behind it with the same error. A list that is read alone takes the place
of the empty list in the signature that the header and an empty list are read as; if they are
refused, so is the whole text, with their error. -/
theorem parse_append_eq_bind {header list : Text} (hopen : '(' ∉ header)
    (hne : ∃ c ∈ header, isBlank c = false) (hlist : (list.dropWhile isBlank).head? = some '(') :
    parse (header ++ list) = (do
      let arguments ← parseArguments list
      let s ← parse (header ++ ['(', ')'])
      .ok { s with arguments := arguments }) := by
  have hheader : ¬ IsGap header := by
    obtain ⟨c, hmem, hc⟩ := hne
    intro hgap
    exact hgap.not_mem hc hmem
  obtain ⟨gap, rest, hgap, rfl⟩ := exists_gap_append_cons hlist
  -- The blank characters before the parenthesis are part of the header, and change no word of it.
  have hwhole : ¬ IsGap (header ++ gap) := fun h => hheader (isGap_append.1 h).1
  have hnot : '(' ∉ header ++ gap := by
    rw [List.mem_append, not_or]
    exact ⟨hopen, hgap.not_mem (by decide)⟩
  rw [← List.append_assoc, parse_append_cons hwhole hnot, words_append_gap header hgap,
    parseArguments_gap_append_cons hgap, parse_append_parens hheader hopen]
  cases listVerdict (trimEnd rest) with
  | error e => rfl
  | ok arguments =>
      cases Header.ofWords (words header) with
      | error e => rfl
      | ok h => rfl

theorem parse_append_eq_bind_of_blank_before_list :
    parse ("\nprivate void".toList ++ " f".toList ++ "\t ( int a,  b,\tc) ".toList) =
        .ok ⟨some .privateAccess, "void".toList, ['f'],
          [⟨"int".toList, ['a']⟩, ⟨"b,".toList, ['c']⟩]⟩ ∧
      parse ("static public f".toList ++ "\r(int a, b) c".toList) =
        .error (.malformedArgument ['b']) ∧
      parse ("static public f".toList ++ "\r(int a) c".toList) =
        .error (.trailingInput " c".toList) := by
  refine ⟨?_, ?_, ?_⟩
  · exact (parse_append_eq_bind (by decide) ⟨'f', by decide⟩ (by decide)).trans (by decide +kernel)
  · exact (parse_append_eq_bind (by decide) ⟨'f', by decide⟩ (by decide)).trans (by decide +kernel)
  · exact (parse_append_eq_bind (by decide) ⟨'f', by decide⟩ (by decide)).trans (by decide +kernel)

/-! ### Two lists in one -/

/-- The verdict on entries with a separator between them is that on each part, the first part
first. -/
theorem argumentsVerdict_append_separator {x y : Text} (hx : ¬ IsGap x) (hy : ¬ IsGap y) :
    argumentsVerdict (x ++ separator ++ y) = (do
      let as ← argumentsVerdict x
      let bs ← argumentsVerdict y
      .ok (as ++ bs)) := by
  have hboth : ¬ IsGap (x ++ separator ++ y) := by
    intro h
    exact hy (isGap_append.1 h).2
  rw [argumentsVerdict_of_not_isGap hboth, argumentsVerdict_of_not_isGap hx,
    argumentsVerdict_of_not_isGap hy, pieces_append_separator, List.mapM_append]
  rfl

theorem parseArguments_parens {inner : Text} (hclose : ')' ∉ inner) :
    parseArguments ('(' :: inner ++ [')']) = argumentsVerdict inner := by
  have hend : trimEnd (inner ++ [')']) = inner ++ [')'] :=
    trimEnd_append_cons (by decide) inner []
  have halone := parseArguments_gap_append_cons isGap_nil (inner ++ [')'])
  rw [hend, listVerdict_append_cons hclose] at halone
  rw [List.cons_append, ← List.nil_append ('(' :: _), halone]
  cases argumentsVerdict inner with
  | error e => rfl
  | ok arguments => rfl

/-- **Two lists in one** have the arguments of the first and then those of the second. If the first
is refused alone, both together are refused with its error, and if only the second is, with that of
the second. -/
theorem parseArguments_append_separator {x y : Text} (hx : ')' ∉ x) (hy : ')' ∉ y)
    (hxne : ¬ IsGap x) (hyne : ¬ IsGap y) :
    parseArguments ('(' :: (x ++ separator ++ y) ++ [')']) = (do
      let as ← parseArguments ('(' :: x ++ [')'])
      let bs ← parseArguments ('(' :: y ++ [')'])
      .ok (as ++ bs)) := by
  have hboth : ')' ∉ x ++ separator ++ y := by
    simp only [List.mem_append, not_or]
    exact ⟨⟨hx, by decide⟩, hy⟩
  rw [parseArguments_parens hboth, parseArguments_parens hx, parseArguments_parens hy,
    argumentsVerdict_append_separator hxne hyne]

/-- Commas and spaces on either side of the separator make no other, and of two faults the first is
reported. -/
theorem parseArguments_append_separator_of_commas :
    parseArguments ('(' :: (" a b, c\td,".toList ++ separator ++ ",( a,\n".toList) ++ [')']) =
        .ok [⟨['a'], ['b']⟩, ⟨['c'], "d,".toList⟩, ⟨",(".toList, "a,".toList⟩] ∧
      parseArguments ('(' :: ("a b, ".toList ++ separator ++ "a".toList) ++ [')']) =
        .error (.malformedArgument []) ∧
      parseArguments ('(' :: ("a,b c".toList ++ separator ++ " , a d".toList) ++ [')']) =
        .error (.malformedArgument []) := by
  have hbare {t : Text} (ha : 'a' ∈ t) : ¬ IsGap t := by
    intro h
    exact h.not_mem (by decide) ha
  refine ⟨?_, ?_, ?_⟩
  · exact (parseArguments_append_separator (by decide) (by decide) (hbare (by decide))
      (hbare (by decide))).trans (by decide +kernel)
  · exact (parseArguments_append_separator (by decide) (by decide) (hbare (by decide))
      (hbare (by decide))).trans (by decide +kernel)
  · exact (parseArguments_append_separator (by decide) (by decide) (hbare (by decide))
      (hbare (by decide))).trans (by decide +kernel)

end Declarator.Signature
