import Declarator.Proofs.Json.Reading
import Declarator.Proofs.Json.Spelling

/-!
# What a reader takes a value for

A value has many written forms, and a reader that depends on the value alone takes all of them for
the same thing.

* `ReadsAs item j v`: every written form of `j` is read as `v`.
* `ReadsAs.decode_layouts`: so are both layouts.
* `readsAs_readNull`, `readsAs_readOptional_null`, `readsAs_readOptional_some`.
-/

namespace Declarator.Json

variable {α : Type}

/-- Every written form of `j` is taken for `v`. -/
def ReadsAs (item : Reader α) (j : Json) (v : α) : Prop :=
  ∀ ⦃t⦄, Spelled j t → Reads item t v

/-- Both layouts of a value are read. -/
theorem ReadsAs.decode_layouts {item : Reader α} {j : Json} {v : α} (h : ReadsAs item j v) :
    decode item j.compact = .ok v ∧ decode item (j.pretty 0) = .ok v :=
  ⟨decode_eq_ok (h (spelled_compact j)), decode_eq_ok (h (spelled_pretty 0 j))⟩

/-! ### How written forms begin -/

theorem SpelledString.opens {t s : Text} (h : SpelledString t s) {closing : Char}
    (hclosing : '"' ≠ closing) : Opens closing s := by
  cases h with
  | mk h => exact ⟨'"', _, rfl, by decide, hclosing⟩

theorem Spelled.opens {j : Json} {t : Text} (h : Spelled j t) : Opens ']' t := by
  cases h with
  | null => exact ⟨'n', _, rfl, by decide, by decide⟩
  | string h => exact h.opens (by decide)
  | array h hinner => exact ⟨'[', _, rfl, by decide, by decide⟩
  | object h hinner => exact ⟨'{', _, rfl, by decide, by decide⟩

/-- Only a null begins as a null does. -/
theorem Spelled.opens_of_ne_null {j : Json} {t : Text} (h : Spelled j t) (hj : j ≠ .null) :
    Opens 'n' t := by
  cases h with
  | null => exact absurd rfl hj
  | string h => exact h.opens (by decide)
  | array h hinner => exact ⟨'[', _, rfl, by decide, by decide⟩
  | object h hinner => exact ⟨'{', _, rfl, by decide, by decide⟩

/-! ### Nulls and values that may be null -/

theorem readsAs_readNull : ReadsAs readNull .null () := by
  intro t h rest
  cases h with
  | null =>
      rw [List.cons_append, readNull, skipBlanks_cons (by decide)]
      simp only [if_true, reads_literal ['u', 'l', 'l'] rest]

theorem readsAs_readOptional_null (item : Reader α) : ReadsAs (readOptional item) .null none := by
  intro t h rest
  cases h with
  | null =>
      have hletters := reads_literal ['u', 'l', 'l'] rest
      rw [List.cons_append, readOptional, skipBlanks_cons (by decide)]
      simp only [if_true, hletters]
      rfl

theorem readsAs_readOptional_some {item : Reader α} {j : Json} {v : α} (hj : j ≠ .null)
    (h : ReadsAs item j v) : ReadsAs (readOptional item) j (some v) := by
  intro t ht rest
  have hv := h ht rest
  obtain ⟨c, s, rfl, hblank, hnull⟩ := ht.opens_of_ne_null hj
  rw [List.cons_append] at hv ⊢
  rw [readOptional, skipBlanks_cons hblank]
  simp only [if_neg hnull, hv]
  rfl

end Declarator.Json
