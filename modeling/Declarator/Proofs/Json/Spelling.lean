import Declarator.Json.Grammar
import Declarator.Proofs.Text.Pieces

/-!
# What is written is a written form

Both layouts of a value are written forms of it: without blanks, and with each part on a line of its
own. They differ only in the padding between parts.

* `spelledChar_escape`, `spelledString_quoted`: strings.
* `listed_intercalate`, `exists_listed_block`: parts between brackets.
* `spelled_compact`, `spelled_pretty`: **values.**
-/

namespace Declarator.Json

open Text (intercalate_cons)

/-! ### Padding -/

theorem isPadding_nil : IsPadding [] := by
  intro c hc
  cases hc

theorem isPadding_space : IsPadding [' '] := by
  intro c hc
  rw [List.mem_singleton.1 hc]
  decide

/-- A new line and the columns in front of what stands on it. -/
theorem isPadding_newline (margin : Nat) : IsPadding ('\n' :: List.replicate margin ' ') := by
  intro c hc
  rcases List.mem_cons.1 hc with rfl | hc
  · decide
  · rw [List.eq_of_mem_replicate hc]
    decide

/-! ### Strings -/

theorem hexDigit?_digitChar {n : Nat} (h : n < 16) : hexDigit? (Nat.digitChar n) = some n := by
  have hall : ∀ k : Fin 16, hexDigit? (Nat.digitChar k) = some k.val := by decide
  exact hall ⟨n, h⟩

/-- A control character by its code point. -/
theorem spelledUnit_control {n : Nat} (h : n < 0x20) :
    SpelledUnit n ['0', '0', Nat.digitChar (n / 16), Nat.digitChar (n % 16)] := by
  have hunit : SpelledUnit (((0 * 16 + 0) * 16 + n / 16) * 16 + n % 16)
      ['0', '0', Nat.digitChar (n / 16), Nat.digitChar (n % 16)] :=
    .mk (by decide) (by decide) (hexDigit?_digitChar (by omega)) (hexDigit?_digitChar (by omega))
  have hn : ((0 * 16 + 0) * 16 + n / 16) * 16 + n % 16 = n := by omega
  rwa [hn] at hunit

/-- The characters that are written as a letter behind a backslash. -/
def isShort (c : Char) : Prop :=
  c = '"' ∨ c = '\\' ∨ c = '\x08' ∨ c = '\t' ∨ c = '\n' ∨ c = '\x0c' ∨ c = '\r'

theorem spelledChar_escape (c : Char) : SpelledChar c (escape c) := by
  by_cases hshort : isShort c
  · rcases hshort with rfl | rfl | rfl | rfl | rfl | rfl | rfl <;> exact .short (by decide)
  · simp only [isShort, not_or] at hshort
    obtain ⟨hquote, hslash, hback, htab, hline, hform, hreturn⟩ := hshort
    by_cases hcontrol : c.toNat < 0x20
    · simp only [escape, hquote, hslash, hback, htab, hline, hform, hreturn, hcontrol, if_true,
        if_false]
      exact .unit (spelledUnit_control hcontrol)
    · simp only [escape, hquote, hslash, hback, htab, hline, hform, hreturn, hcontrol, if_false]
      exact .literal hquote hslash (Nat.le_of_not_lt hcontrol)

theorem spelledChars_flatMap_escape (t : Text) : SpelledChars t (t.flatMap escape) := by
  induction t with
  | nil => exact .nil
  | cons c t ih => exact .cons (spelledChar_escape c) ih

theorem spelledString_quoted (t : Text) : SpelledString t (quoted t) :=
  .mk (spelledChars_flatMap_escape t)

/-! ### Parts between brackets -/

variable {gap behind : Text}

theorem listedFurther_flatMap (hgap : IsPadding gap) (hbehind : IsPadding behind)
    (parts : List Text) :
    ListedFurther parts (parts.flatMap (',' :: gap ++ ·) ++ behind) := by
  induction parts with
  | nil => exact .nil hbehind
  | cons p ps ih =>
      have h : ListedFurther (p :: ps)
          ([] ++ ',' :: gap ++ p ++ (ps.flatMap (',' :: gap ++ ·) ++ behind)) :=
        .cons isPadding_nil hgap ih
      rw [List.flatMap_cons, List.append_assoc]
      simpa using h

/-- Parts with commas between them and nothing else. -/
theorem listed_intercalate (parts : List Text) : Listed parts ([','].intercalate parts) := by
  cases parts with
  | nil => exact .nil isPadding_nil
  | cons p ps =>
      have h : Listed (p :: ps) ([] ++ p ++ (ps.flatMap (',' :: [] ++ ·) ++ [])) :=
        .cons isPadding_nil (listedFurther_flatMap isPadding_nil isPadding_nil ps)
      rw [intercalate_cons]
      simpa using h

/-- Parts each on a line of its own, and a new line behind the last. -/
theorem exists_listed_block (margin : Nat) (opening closing : Char) (parts : List Text) :
    ∃ inner, Listed parts inner ∧
      block margin opening parts closing = opening :: inner ++ [closing] := by
  cases parts with
  | nil => exact ⟨[], .nil isPadding_nil, rfl⟩
  | cons p ps =>
      have hfurther := listedFurther_flatMap (isPadding_newline (margin + 2))
        (isPadding_newline margin) ps
      refine ⟨_, .cons (isPadding_newline (margin + 2)) hfurther, ?_⟩
      simp [block, intercalate_cons, List.flatMap_map]

/-! ### Values -/

mutual

theorem spelled_compact : ∀ j : Json, Spelled j j.compact
  | .null => .null
  | .string t => .string (spelledString_quoted t)
  | .array items => .array (spelledItems_compactItems items) (listed_intercalate _)
  | .object members => .object (spelledMembers_compactMembers members) (listed_intercalate _)

theorem spelledItems_compactItems : ∀ items : List Json, SpelledItems items (compactItems items)
  | [] => .nil
  | item :: items => .cons (spelled_compact item) (spelledItems_compactItems items)

theorem spelledMembers_compactMembers :
    ∀ members : List (Text × Json), SpelledMembers members (compactMembers members)
  | [] => .nil
  | (key, value) :: members =>
      .cons (spelledString_quoted key) isPadding_nil isPadding_nil (spelled_compact value)
        (spelledMembers_compactMembers members)

end

mutual

theorem spelled_pretty (margin : Nat) : ∀ j : Json, Spelled j (j.pretty margin)
  | .null => .null
  | .string t => .string (spelledString_quoted t)
  | .array items => by
      obtain ⟨inner, hinner, he⟩ :=
        exists_listed_block margin '[' ']' (prettyItems (margin + 2) items)
      rw [pretty, he]
      exact .array (spelledItems_prettyItems (margin + 2) items) hinner
  | .object members => by
      obtain ⟨inner, hinner, he⟩ :=
        exists_listed_block margin '{' '}' (prettyMembers (margin + 2) members)
      rw [pretty, he]
      exact .object (spelledMembers_prettyMembers (margin + 2) members) hinner

theorem spelledItems_prettyItems (margin : Nat) :
    ∀ items : List Json, SpelledItems items (prettyItems margin items)
  | [] => .nil
  | item :: items => .cons (spelled_pretty margin item) (spelledItems_prettyItems margin items)

theorem spelledMembers_prettyMembers (margin : Nat) :
    ∀ members : List (Text × Json), SpelledMembers members (prettyMembers margin members)
  | [] => .nil
  | (key, value) :: members =>
      .cons (spelledString_quoted key) isPadding_nil isPadding_space (spelled_pretty margin value)
        (spelledMembers_prettyMembers margin members)

end

end Declarator.Json
