import Declarator.Proofs.Parsing.Commitment

/-!
# Evaluation comes to an end

The rules of evaluation say what a tree answers once the trees it is made of have answered. None of
them bounds a repetition, which goes on as long as its rounds take text. So a tree need not come to
an answer by the rules alone; it does because no round gives back text that another has taken.

* `Tree.EndsIn`: the rules. A derivation is an evaluation that comes to an end.
* `Tree.EndsIn.eq_eval`: an evaluation that comes to an end does so with the answer of `Tree.eval`.
* `Tree.endsIn_eval`: **every evaluation comes to an end.** `Tree.endsIn_iff`: the two together.
-/

namespace Declarator.Parsing

/-- The answer of a sequence or a repetition with the value `v` in front of those it has read. -/
def Outcome.cons (v : Value) : Outcome Flaw Value → Outcome Flaw Value
  | .done (.list vs) rest => .done (.list (v :: vs)) rest
  | answer => answer

theorem Outcome.cons_eq_mismatch {v : Value} {x : Outcome Flaw Value} {e : Flaw} :
    x.cons v = .mismatch e ↔ x = .mismatch e := by
  cases x with
  | done w rest => cases w <;> simp [cons]
  | mismatch e' => rfl
  | failure e' => rfl
  | incomplete n => rfl

theorem Outcome.mismatch_or_ne {ε α : Type} (x : Outcome ε α) :
    (∃ e, x = .mismatch e) ∨ ∀ e, x ≠ .mismatch e := by
  cases x <;> simp

namespace Tree

variable {s input mid : Text} {t item inner : Tree} {ts : List Tree} {v : Value} {e : Flaw}
  {x : Outcome Flaw Value}

/-! ### The rules -/

/-- `EndsIn t input x`: the evaluation of `t` on `input` comes to an end, with the answer `x`. -/
inductive EndsIn : Tree → Text → Outcome Flaw Value → Prop
  | tag (s rest : Text) : EndsIn (.tag s) (s ++ rest) (.done (.text s) rest)
  | tagMismatch {s input : Text} (h : ¬ s <+: input) :
      EndsIn (.tag s) input (.mismatch ⟨Rule.tag.name, some input⟩)
  | streamTag (s rest : Text) : EndsIn (.streamTag s) (s ++ rest) (.done (.text s) rest)
  /-- The text ends inside the one that is looked for. -/
  | streamTagShort {input missing : Text} (h : missing ≠ []) :
      EndsIn (.streamTag (input ++ missing)) input (.incomplete (Text.width missing))
  | streamTagMismatch {s input : Text} (h : ¬ s <+: input) (h' : ¬ input <+: s) :
      EndsIn (.streamTag s) input (.mismatch ⟨Rule.tag.name, some input⟩)
  | seqNil (input : Text) : EndsIn (.seq []) input (.done (.list []) input)
  | seqCons {t : Tree} {ts : List Tree} {input mid : Text} {v : Value} {x : Outcome Flaw Value}
      (ht : EndsIn t input (.done v mid)) (hts : EndsIn (.seq ts) mid x) :
      EndsIn (.seq (t :: ts)) input (x.cons v)
  /-- A part that does not match ends the sequence. -/
  | seqHead {t : Tree} {input : Text} {x : Outcome Flaw Value} (ts : List Tree)
      (ht : EndsIn t input x) (hx : ∀ v rest, x ≠ .done v rest) : EndsIn (.seq (t :: ts)) input x
  | altNil (input : Text) : EndsIn (.alt []) input (.mismatch ⟨Rule.alt.name, some input⟩)
  | altLast {t : Tree} {input : Text} {x : Outcome Flaw Value} (ht : EndsIn t input x) :
      EndsIn (.alt [t]) input x
  | altHead {t : Tree} {input : Text} {x : Outcome Flaw Value} (ts : List Tree)
      (ht : EndsIn t input x) (hx : ∀ e, x ≠ .mismatch e) : EndsIn (.alt (t :: ts)) input x
  /-- After a mismatch the next choice begins where the one before it began. -/
  | altNext {t u : Tree} {ts : List Tree} {input : Text} {e : Flaw} {x : Outcome Flaw Value}
      (ht : EndsIn t input (.mismatch e)) (hts : EndsIn (.alt (u :: ts)) input x) :
      EndsIn (.alt (t :: u :: ts)) input x
  /-- A mismatch ends a repetition where the round began. -/
  | manyNil {item : Tree} {input : Text} {e : Flaw} (h : EndsIn item input (.mismatch e)) :
      EndsIn (.many item) input (.done (.list []) input)
  /-- A round that takes nothing would be followed by itself. -/
  | manyIdle {item : Tree} {input : Text} {v : Value} (h : EndsIn item input (.done v input)) :
      EndsIn (.many item) input (.mismatch ⟨Rule.many0.name, some input⟩)
  | manyCons {item : Tree} {input mid : Text} {v : Value} {x : Outcome Flaw Value}
      (h : EndsIn item input (.done v mid)) (hne : mid ≠ input)
      (hrest : EndsIn (.many item) mid x) : EndsIn (.many item) input (x.cons v)
  | manyStop {item : Tree} {input : Text} {stop : Stop Flaw}
      (h : EndsIn item input stop.outcome) : EndsIn (.many item) input stop.outcome
  | optSome {item : Tree} {input : Text} {x : Outcome Flaw Value} (h : EndsIn item input x)
      (hx : ∀ e, x ≠ .mismatch e) : EndsIn (.opt item) input x
  | optNone {item : Tree} {input : Text} {e : Flaw} (h : EndsIn item input (.mismatch e)) :
      EndsIn (.opt item) input (.done .null input)
  | cutSame {inner : Tree} {input : Text} {x : Outcome Flaw Value} (label : Text)
      (h : EndsIn inner input x) (hx : ∀ e, x ≠ .mismatch e) : EndsIn (.cut label inner) input x
  | cutMismatch {inner : Tree} {input : Text} {e : Flaw} (label : Text)
      (h : EndsIn inner input (.mismatch e)) :
      EndsIn (.cut label inner) input (.failure ⟨label, some input⟩)
  | fail (label input : Text) : EndsIn (.fail label) input (.failure ⟨label, none⟩)

/-! ### One equation for each rule -/

theorem eval_tag_append (s rest : Text) :
    (Tree.tag s).eval (s ++ rest) = .done (.text s) rest := by
  rw [eval, Parser.map_apply, Parsing.tag, Text.after?_append]
  rfl

theorem eval_tag_of_mismatch (h : ¬ s <+: input) :
    (Tree.tag s).eval input = .mismatch ⟨Rule.tag.name, some input⟩ := by
  rw [eval, Parser.map_apply, Parsing.tag, Text.after?_eq_none_iff.2 h]
  rfl

theorem eval_streamTag_append (s rest : Text) :
    (Tree.streamTag s).eval (s ++ rest) = .done (.text s) rest := by
  rw [eval, Parser.map_apply, Parsing.streamTag, Text.after?_append]
  rfl

theorem eval_streamTag_of_mismatch (h : ¬ s <+: input) (h' : ¬ input <+: s) :
    (Tree.streamTag s).eval input = .mismatch ⟨Rule.tag.name, some input⟩ := by
  rw [eval, Parser.map_apply, Parsing.streamTag, Text.after?_eq_none_iff.2 h,
    Text.after?_eq_none_iff.2 h']
  rfl

theorem eval_seq_cons (t : Tree) (ts : List Tree) (input : Text) :
    (Tree.seq (t :: ts)).eval input =
      (t.eval input).andThen fun v mid => ((Tree.seq ts).eval mid).cons v := by
  rw [eval, Parser.map_apply, evalAll_cons, Outcome.andThen_assoc]
  congr 1
  funext v mid
  rw [eval, Parser.map_apply, Outcome.andThen_assoc]
  cases evalAll ts mid <;> rfl

theorem eval_seq_of_not_done (ts : List Tree) (h : ∀ v rest, t.eval input ≠ .done v rest) :
    (Tree.seq (t :: ts)).eval input = t.eval input := by
  rw [eval_seq_cons]
  cases ht : t.eval input with
  | done v rest => exact absurd ht (h v rest)
  | mismatch e => rfl
  | failure e => rfl
  | incomplete n => rfl

theorem eval_alt_cons (t u : Tree) (ts : List Tree) (input : Text) :
    (Tree.alt (t :: u :: ts)).eval input = Parsing.orElse t.eval (Tree.alt (u :: ts)).eval input :=
  rfl

theorem eval_alt_of_not_mismatch (ts : List Tree) (h : ∀ e, t.eval input ≠ .mismatch e) :
    (Tree.alt (t :: ts)).eval input = t.eval input := by
  cases ts with
  | nil => rfl
  | cons u ts =>
      rw [eval_alt_cons, Parsing.orElse]
      split
      · next e he => exact absurd he (h e)
      · rfl

theorem eval_many_eq (item : Tree) (input : Text) :
    (Tree.many item).eval input =
      (Parsing.many .many0 item.eval input).andThen fun vs rest => .done (.list vs) rest :=
  rfl

/-- **A round that takes something leaves less**, as what it leaves is an end of the text. -/
theorem length_lt_of_done (h : t.eval input = .done v mid) (hne : mid ≠ input) :
    mid.length < input.length := by
  have hsuffix : mid <:+ input := (conserves_eval t).suffix h
  exact Nat.lt_of_le_of_ne hsuffix.length_le fun he => hne (hsuffix.eq_of_length he)

theorem eval_many_of_done (h : item.eval input = .done v mid) (hne : mid ≠ input) :
    (Tree.many item).eval input = ((Tree.many item).eval mid).cons v := by
  rw [eval_many_eq, many_of_done h (length_lt_of_done h hne), Outcome.andThen_assoc, eval_many_eq]
  cases Parsing.many .many0 item.eval mid <;> rfl

theorem eval_many_of_idle (h : item.eval input = .done v input) :
    (Tree.many item).eval input = .mismatch ⟨Rule.many0.name, some input⟩ := by
  rw [eval_many_eq, Parsing.many, h]
  simp only [Nat.lt_irrefl, if_false]
  rfl

theorem eval_many_of_mismatch (h : item.eval input = .mismatch e) :
    (Tree.many item).eval input = .done (.list []) input := by
  rw [eval_many_eq, many_of_mismatch h]
  rfl

theorem eval_opt_of_not_mismatch (h : ∀ e, item.eval input ≠ .mismatch e) :
    (Tree.opt item).eval input = item.eval input := by
  rw [eval, Parser.map_apply, Parsing.opt]
  cases hi : item.eval input with
  | mismatch e => exact absurd hi (h e)
  | done v rest => rfl
  | failure e => rfl
  | incomplete n => rfl

theorem eval_opt_of_mismatch (h : item.eval input = .mismatch e) :
    (Tree.opt item).eval input = .done .null input := by
  rw [eval, Parser.map_apply, Parsing.opt, h]
  rfl

theorem eval_cut_of_not_mismatch (label : Text) (h : ∀ e, inner.eval input ≠ .mismatch e) :
    (Tree.cut label inner).eval input = inner.eval input := by
  rw [eval, Parsing.cut]
  split
  · next e he => exact absurd he (h e)
  · rfl

/-! ### The rules and the evaluation -/

/-- **An evaluation that comes to an end** gives the answer that `eval` computes. -/
theorem EndsIn.eq_eval (h : EndsIn t input x) : x = t.eval input := by
  induction h with
  | tag s rest => exact (eval_tag_append s rest).symm
  | tagMismatch h => exact (eval_tag_of_mismatch h).symm
  | streamTag s rest => exact (eval_streamTag_append s rest).symm
  | streamTagShort h => exact (Origin.streamTag rfl h).eval_eq_stop.symm
  | streamTagMismatch h h' => exact (eval_streamTag_of_mismatch h h').symm
  | seqNil => rfl
  | seqCons _ _ iht ihts => rw [eval_seq_cons, ← iht, Outcome.andThen_done, ihts]
  | seqHead ts _ hx iht =>
      subst iht
      exact (eval_seq_of_not_done ts hx).symm
  | altNil => rfl
  | altLast _ iht => exact iht
  | altHead ts _ hx iht =>
      subst iht
      exact (eval_alt_of_not_mismatch ts hx).symm
  | altNext _ _ iht ihts => rw [eval_alt_cons, orElse_of_mismatch iht.symm, ihts]
  | manyNil _ ih => exact (eval_many_of_mismatch ih.symm).symm
  | manyIdle _ ih => exact (eval_many_of_idle ih.symm).symm
  | manyCons _ hne _ ih ihrest => rw [eval_many_of_done ih.symm hne, ihrest]
  | manyStop _ ih => exact (map_of_stop _ (many_of_stop (.first _) ih.symm)).symm
  | optSome _ hx ih =>
      subst ih
      exact (eval_opt_of_not_mismatch hx).symm
  | optNone _ ih => exact (eval_opt_of_mismatch ih.symm).symm
  | cutSame label _ hx ih =>
      subst ih
      exact (eval_cut_of_not_mismatch label hx).symm
  | cutMismatch label _ ih => exact (Origin.cut ih.symm).eval_eq_stop.symm
  | fail => rfl

theorem endsIn_eval_seq (h : ∀ t ∈ ts, ∀ input, EndsIn t input (t.eval input)) (input : Text) :
    EndsIn (.seq ts) input ((Tree.seq ts).eval input) := by
  induction ts generalizing input with
  | nil => exact .seqNil input
  | cons t ts ih =>
      obtain ⟨ht, hts⟩ := List.forall_mem_cons.1 h
      have hhead := ht input
      by_cases hdone : ∃ v mid, t.eval input = .done v mid
      · obtain ⟨v, mid, hv⟩ := hdone
        rw [hv] at hhead
        rw [eval_seq_cons, hv, Outcome.andThen_done]
        exact .seqCons hhead (ih hts mid)
      · have hnot : ∀ v mid, t.eval input ≠ .done v mid := fun v mid hv => hdone ⟨v, mid, hv⟩
        rw [eval_seq_of_not_done ts hnot]
        exact .seqHead ts hhead hnot

theorem endsIn_eval_alt (h : ∀ t ∈ ts, ∀ input, EndsIn t input (t.eval input)) (input : Text) :
    EndsIn (.alt ts) input ((Tree.alt ts).eval input) := by
  induction ts with
  | nil => exact .altNil input
  | cons t ts ih =>
      obtain ⟨ht, hts⟩ := List.forall_mem_cons.1 h
      cases ts with
      | nil => exact .altLast (ht input)
      | cons u ts =>
          have hhead := ht input
          rcases (t.eval input).mismatch_or_ne with ⟨e, he⟩ | hnot
          · rw [he] at hhead
            rw [eval_alt_cons, orElse_of_mismatch he]
            exact .altNext hhead (ih hts)
          · rw [eval_alt_of_not_mismatch _ hnot]
            exact .altHead _ hhead hnot

/-- The induction is on the text: every round but the last takes some of it. -/
theorem endsIn_eval_many (h : ∀ input, EndsIn item input (item.eval input)) (input : Text) :
    EndsIn (.many item) input ((Tree.many item).eval input) := by
  induction hn : input.length using Nat.strongRecOn generalizing input with
  | ind n ih =>
      have hround := h input
      rcases Stop.done_or_mismatch_or_stop (item.eval input) with
        ⟨v, mid, hv⟩ | ⟨e, he⟩ | ⟨stop, hs⟩
      · rw [hv] at hround
        by_cases hidle : mid = input
        · subst hidle
          rw [eval_many_of_idle hv]
          exact .manyIdle hround
        · rw [eval_many_of_done hv hidle]
          exact .manyCons hround hidle (ih mid.length (hn ▸ length_lt_of_done hv hidle) mid rfl)
      · rw [he] at hround
        rw [eval_many_of_mismatch he]
        exact .manyNil hround
      · rw [hs] at hround
        rw [eval_many_eq, many_of_stop (.first input) hs, Stop.andThen_outcome]
        exact .manyStop hround

/-- **Every evaluation comes to an end**, whatever the tree and the text. -/
theorem endsIn_eval (t : Tree) (input : Text) : EndsIn t input (t.eval input) := by
  induction t generalizing input with
  | tag s =>
      by_cases h : s <+: input
      · obtain ⟨rest, rfl⟩ := h
        rw [eval_tag_append]
        exact .tag s rest
      · rw [eval_tag_of_mismatch h]
        exact .tagMismatch h
  | streamTag s =>
      by_cases h : s <+: input
      · obtain ⟨rest, rfl⟩ := h
        rw [eval_streamTag_append]
        exact .streamTag s rest
      by_cases h' : input <+: s
      · obtain ⟨missing, rfl⟩ := h'
        have hne : missing ≠ [] := by
          rintro rfl
          exact h (by simp)
        rw [(Origin.streamTag rfl hne).eval_eq_stop]
        exact .streamTagShort hne
      · rw [eval_streamTag_of_mismatch h h']
        exact .streamTagMismatch h h'
  | seq parts ih => exact endsIn_eval_seq ih input
  | alt choices ih => exact endsIn_eval_alt ih input
  | many item ih => exact endsIn_eval_many ih input
  | opt item ih =>
      have hitem := ih input
      rcases (item.eval input).mismatch_or_ne with ⟨e, he⟩ | hnot
      · rw [he] at hitem
        rw [eval_opt_of_mismatch he]
        exact .optNone hitem
      · rw [eval_opt_of_not_mismatch hnot]
        exact .optSome hitem hnot
  | cut label inner ih =>
      have hinner := ih input
      rcases (inner.eval input).mismatch_or_ne with ⟨e, he⟩ | hnot
      · rw [he] at hinner
        rw [(Origin.cut he).eval_eq_stop]
        exact .cutMismatch label hinner
      · rw [eval_cut_of_not_mismatch label hnot]
        exact .cutSame label hinner hnot
  | fail label => exact .fail label input

theorem endsIn_iff : EndsIn t input x ↔ x = t.eval input := by
  constructor
  · exact EndsIn.eq_eval
  · rintro rfl
    exact endsIn_eval t input

end Tree

end Declarator.Parsing
