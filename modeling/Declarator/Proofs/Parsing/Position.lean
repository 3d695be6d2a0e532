import Declarator.Proofs.Parsing.Evaluation

/-!
# What an answer says of the text

A tree applies the trees inside it to ends of its text only, as every one of them begins where
another has stopped or where an abandoned one had begun. So the places that errors name lie in the
text, and a text is incomplete only by what a stream tag still asks of it.

* `Tree.Applies.suffix`, `Tree.Applies.contains`: which trees are applied, and to what.
* `Tree.EndsIn.isWithin_of_mismatch`, `Tree.place_suffix_of_eval_eq_failure`: where a tree errs.
* `Tree.exists_streamTag_of_eval_eq_incomplete`: by how much a text is incomplete.
* `Tree.endsIn_iff_and_conserves`: **every evaluation comes to an end, and its answer accounts for
  the text.**
-/

namespace Declarator.Parsing

/-! ### Ends of the text -/

theorem Round.suffix {ε α : Type} {p : Parser ε α} {source : α → Text} {input place : Text}
    (h : Round p input place) (hp : Conserves source p) : place <:+ input := by
  induction h with
  | first => exact List.suffix_rfl
  | next hv _ _ ih => exact ih.trans (hp.suffix hv)

namespace Tree

variable {t u : Tree} {input place : Text} {e : Flaw} {x : Outcome Flaw Value}

theorem Calls.suffix (h : Calls t input u place) : place <:+ input := by
  cases h with
  | part u after h => exact (conserves_evalAll fun t _ => conserves_eval t).suffix h
  | choice => exact List.suffix_rfl
  | round h => exact h.suffix (conserves_eval u)
  | option => exact List.suffix_rfl
  | inner => exact List.suffix_rfl

theorem Calls.child (h : Calls t input u place) : Child t u := by
  cases h with
  | part => exact .part (by simp)
  | choice => exact .choice (by simp)
  | round => exact .item u
  | option => exact .option u
  | inner label => exact .inner label u

theorem Applies.suffix (h : Applies t input u place) : place <:+ input := by
  induction h with
  | self => exact List.suffix_rfl
  | call h _ ih => exact ih.trans h.suffix

theorem Applies.contains (h : Applies t input u place) : Contains t u := by
  induction h with
  | self => exact .refl
  | call h _ ih => exact h.child.contains ih

/-! ### Where a tree errs -/

/-- The flaw is at a place in the text. -/
def IsWithin (e : Flaw) (input : Text) : Prop :=
  ∃ place, e.place = some place ∧ place <:+ input

theorem EndsIn.isWithin_of_rest {mid : Text} {v : Value} (h : EndsIn t input (.done v mid))
    (he : IsWithin e mid) : IsWithin e input := by
  obtain ⟨place, hplace, hsuffix⟩ := he
  have hmid : mid <:+ input := (conserves_eval t).suffix h.eq_eval.symm
  exact ⟨place, hplace, hsuffix.trans hmid⟩

/-- **A mismatch names a place in the text**: that of the rule that did not match. -/
theorem EndsIn.isWithin_of_mismatch (h : EndsIn t input x) (hx : x = .mismatch e) :
    IsWithin e input := by
  induction h with
  | tagMismatch | streamTagMismatch | altNil | manyIdle =>
      cases hx
      exact ⟨_, rfl, List.suffix_rfl⟩
  | seqCons ht _ _ ihts => exact ht.isWithin_of_rest (ihts (Outcome.cons_eq_mismatch.1 hx))
  | seqHead _ _ _ iht => exact iht hx
  | altLast _ iht => exact iht hx
  | altHead _ _ _ iht => exact iht hx
  | altNext _ _ _ ihts => exact ihts hx
  | manyCons h _ _ _ ihrest => exact h.isWithin_of_rest (ihrest (Outcome.cons_eq_mismatch.1 hx))
  | manyStop => exact absurd hx (Stop.outcome_ne_mismatch e)
  | optSome _ hnot => exact absurd hx (hnot e)
  | cutSame _ _ hnot => exact absurd hx (hnot e)
  | tag | streamTag | streamTagShort | seqNil | manyNil | optNone | cutMismatch | fail => cases hx

/-- **A failure that names a place** names one in the text: that of the cut it comes from. -/
theorem place_suffix_of_eval_eq_failure (h : t.eval input = .failure e)
    (he : e.place = some place) : place <:+ input := by
  have hstop : t.eval input = (Stop.failure e).outcome := h
  obtain ⟨u, spot, happlies, horigin⟩ := exists_origin hstop
  cases horigin with
  | fail => cases he
  | cut =>
      cases he
      exact happlies.suffix

/-- **An incomplete text** ends inside the text of a stream tag of the tree. -/
theorem exists_streamTag_of_eval_eq_incomplete {n : Nat} (h : t.eval input = .incomplete n) :
    ∃ s, Contains t (.streamTag s) ∧ 1 ≤ n ∧ n ≤ Text.width s := by
  have hstop : t.eval input = (Stop.incomplete n).outcome := h
  obtain ⟨u, spot, happlies, horigin⟩ := exists_origin hstop
  cases horigin with
  | @streamTag s _ missing hs hne =>
      refine ⟨s, happlies.contains, ?_, ?_⟩
      · obtain ⟨c, rest, rfl⟩ := List.exists_cons_of_ne_nil hne
        have := c.utf8Size_pos
        rw [Text.width_cons]
        omega
      · rw [hs, Text.width_append]
        omega

/-! ### All answers -/

/-- **No text is lost and none invented.** Every evaluation comes to an end, in one answer. What a
match has read and what it leaves make up the text; a mismatch is at a place in the text, and so is
a failure that names a place; and a text is incomplete only for a stream tag of the tree, by at
least one byte and no more than the stream tag has. -/
theorem endsIn_iff_and_conserves (t : Tree) (input : Text) :
    (∀ x, EndsIn t input x ↔ x = t.eval input) ∧
      (∀ v rest, t.eval input = .done v rest → v.source ++ rest = input) ∧
      (∀ e, t.eval input = .mismatch e → ∃ place, e.place = some place ∧ place <:+ input) ∧
      (∀ e place, t.eval input = .failure e → e.place = some place → place <:+ input) ∧
      ∀ n, t.eval input = .incomplete n →
        ∃ s, Contains t (.streamTag s) ∧ 1 ≤ n ∧ n ≤ Text.width s := by
  refine ⟨fun x => endsIn_iff, fun v rest h => ?_, fun e h => ?_, fun e place => ?_, fun n => ?_⟩
  · exact (conserves_eval t h).symm
  · exact (endsIn_eval t input).isWithin_of_mismatch h
  · exact place_suffix_of_eval_eq_failure
  · exact exists_streamTag_of_eval_eq_incomplete

end Tree

end Declarator.Parsing
