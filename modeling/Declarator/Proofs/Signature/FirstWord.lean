import Declarator.Proofs.Signature.Layout

/-!
# The first word of a signature

Whether a signature has a modifier can be told without reading it, from the first word of its text
alone. That word ends before the parenthesis, since the return type or the method name stands behind
it, and a return type is never taken for a modifier.

* `head?_words_of_parse_eq_ok`: the first word of a text that is read.
* `hasModifier_iff_of_parse_eq_ok`: **the first word tells** whether there is a modifier, and which.
-/

namespace Declarator.Signature

open Text

@[simp] theorem isKeyword_keyword (m : Modifier) : isKeyword m.keyword = true := by
  simp [isKeyword]

/-- The first word of a text that is read is the keyword of its modifier or else its return type. -/
theorem head?_words_of_parse_eq_ok {text : Text} {s : Signature} (h : parse text = .ok s) :
    (words text).head? = some ((s.modifier.map Modifier.keyword).getD s.returnType) := by
  obtain ⟨header, inner, behind, rfl, -, -, -, hheader, -⟩ := parse_eq_ok_iff.1 h
  obtain ⟨-, hwords⟩ := ofWords_eq_ok_iff.1 hheader
  rw [List.append_assoc]
  cases hm : s.modifier with
  | none =>
      rw [hm] at hwords
      exact head?_words_append hwords _
  | some m =>
      rw [hm] at hwords
      exact head?_words_append hwords _

theorem isKeyword_returnType_of_parse_eq_ok {text : Text} {s : Signature}
    (h : parse text = .ok s) : isKeyword s.returnType = false := by
  obtain ⟨header, inner, behind, -, -, -, -, hheader, -⟩ := parse_eq_ok_iff.1 h
  exact (ofWords_eq_ok_iff.1 hheader).1

/-- **The first word tells.** A text that is read has a modifier exactly if its first word is a
keyword. Then that word is the keyword of the modifier, and otherwise it is the return type. -/
theorem hasModifier_iff_of_parse_eq_ok {text : Text} {s : Signature} (h : parse text = .ok s) :
    (hasModifier text = true ↔ s.modifier.isSome = true) ∧
      (∀ m, s.modifier = some m → (words text).head? = some m.keyword) ∧
      (s.modifier = none → (words text).head? = some s.returnType) := by
  have hfirst := head?_words_of_parse_eq_ok h
  refine ⟨?_, ?_, ?_⟩
  · rw [hasModifier, hfirst]
    cases s.modifier with
    | none => simp [isKeyword_returnType_of_parse_eq_ok h]
    | some m => simp
  · intro m hm
    rw [hfirst, hm]
    rfl
  · intro hm
    rw [hfirst, hm]
    rfl

theorem hasModifier_iff_of_blanks_and_commas :
    parse "\u2003public\u3000publicity private,(a b)".toList =
        .ok ⟨some .publicAccess, "publicity".toList, "private,".toList, [⟨['a'], ['b']⟩]⟩ ∧
      (hasModifier "\u2003public\u3000publicity private,(a b)".toList = true ∧
        (words "\u2003public\u3000publicity private,(a b)".toList).head? =
          some "public".toList) ∧
      parse "publicity\tprivate ()".toList = .ok ⟨none, "publicity".toList, "private".toList, []⟩ ∧
      (¬ hasModifier "publicity\tprivate ()".toList = true ∧
        (words "publicity\tprivate ()".toList).head? = some "publicity".toList) := by
  have h : parse "\u2003public\u3000publicity private,(a b)".toList =
      .ok ⟨some .publicAccess, "publicity".toList, "private,".toList, [⟨['a'], ['b']⟩]⟩ := by
    decide +kernel
  have h' : parse "publicity\tprivate ()".toList =
      .ok ⟨none, "publicity".toList, "private".toList, []⟩ := by
    decide +kernel
  obtain ⟨hiff, hsome, -⟩ := hasModifier_iff_of_parse_eq_ok h
  obtain ⟨hiff', -, hnone⟩ := hasModifier_iff_of_parse_eq_ok h'
  refine ⟨h, ⟨hiff.2 rfl, hsome _ rfl⟩, h', ⟨?_, hnone rfl⟩⟩
  intro hmodifier
  cases hiff'.1 hmodifier

end Declarator.Signature
