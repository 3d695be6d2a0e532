import Declarator.Proofs.Parsing.Tree
import Declarator.Proofs.Parsing.Verdict

/-!
# No way back out of a failure

A failure and an incomplete text stop the whole parse, wherever in the tree and in the text they
come up. Evaluating a tree applies the trees inside it to places in the text, some of them more than
once; which ones depends on what the trees before them answered.

* `Stop`: an answer that stops the parse. `many_of_stop`, `evalAll_of_stop`, `evalFirst_of_stop`: it
  passes through repetition, sequence and choice.
* `Tree.Calls`: one tree applies another to a place. `Tree.Applies`: the same through any number of
  trees in between.
* `Tree.Calls.eval_eq_stop`, `Tree.Applies.eval_eq_stop`: what stops a tree that is applied stops
  the tree that applies it.
* `Tree.eval_eq_of_applies`: **no way back out of a stop, and the innermost cut gives the label.**
* `Tree.eval_eq_stop_iff`: a stop is that of the tree and the place it begins at.
-/

namespace Declarator.Parsing

variable {ε α β : Type}

/-! ### Answers that stop the parse -/

/-- An answer that invites no other attempt. -/
inductive Stop (ε : Type) where
  | failure (e : ε)
  | incomplete (missing : Nat)

namespace Stop

/-- The answer of a parser of any values. -/
def outcome : Stop ε → Outcome ε α
  | .failure e => .failure e
  | .incomplete n => .incomplete n

variable {stop stop' : Stop ε}

theorem outcome_ne_done (v : α) (rest : Text) : stop.outcome ≠ .done v rest := by
  cases stop <;> simp [outcome]

theorem outcome_ne_mismatch (e : ε) : (stop.outcome : Outcome ε α) ≠ .mismatch e := by
  cases stop <;> simp [outcome]

theorem outcome_injective (h : (stop.outcome : Outcome ε α) = stop'.outcome) : stop = stop' := by
  cases stop <;> cases stop' <;> simp_all [outcome]

theorem done_or_mismatch_or_stop (x : Outcome ε α) :
    (∃ v rest, x = .done v rest) ∨ (∃ e, x = .mismatch e) ∨ ∃ stop : Stop ε, x = stop.outcome := by
  cases x with
  | done v rest => exact .inl ⟨v, rest, rfl⟩
  | mismatch e => exact .inr (.inl ⟨e, rfl⟩)
  | failure e => exact .inr (.inr ⟨.failure e, rfl⟩)
  | incomplete n => exact .inr (.inr ⟨.incomplete n, rfl⟩)

@[simp] theorem andThen_outcome (f : α → Text → Outcome ε β) :
    (stop.outcome : Outcome ε α).andThen f = stop.outcome := by
  cases stop <;> rfl

theorem andThen_eq_outcome {x : Outcome ε α} {f : α → Text → Outcome ε β}
    (h : x.andThen f = stop.outcome) :
    x = stop.outcome ∨ ∃ v rest, x = .done v rest ∧ f v rest = stop.outcome := by
  rcases done_or_mismatch_or_stop x with ⟨v, rest, rfl⟩ | ⟨e, rfl⟩ | ⟨stop', rfl⟩
  · exact .inr ⟨v, rest, rfl, h⟩
  · exact absurd h.symm (outcome_ne_mismatch e)
  · rw [andThen_outcome] at h
    exact .inl (outcome_injective h ▸ rfl)

end Stop

section Combinators

variable {stop : Stop ε} {p q : Parser ε α} {input : Text}

theorem map_of_stop (f : α → β) (h : p input = stop.outcome) :
    (f <$> p) input = stop.outcome := by
  rw [Parser.map_apply, h, Stop.andThen_outcome]

theorem eq_stop_of_map_eq_stop {f : α → β} (h : (f <$> p) input = stop.outcome) :
    p input = stop.outcome := by
  rcases Stop.andThen_eq_outcome h with hp | ⟨v, rest, -, h⟩
  · exact hp
  · exact absurd h.symm (Stop.outcome_ne_done _ _)

theorem opt_of_stop (h : p input = stop.outcome) : opt p input = stop.outcome := by
  cases stop <;> simp [opt, h, Stop.outcome]

theorem eq_stop_of_opt_eq_stop (h : opt p input = stop.outcome) : p input = stop.outcome := by
  rcases Stop.done_or_mismatch_or_stop (p input) with ⟨v, rest, hp⟩ | ⟨e, hp⟩ | ⟨stop', hp⟩
  · rw [opt, hp] at h
    exact absurd h.symm (Stop.outcome_ne_done _ _)
  · rw [opt, hp] at h
    exact absurd h.symm (Stop.outcome_ne_done _ _)
  · rw [opt_of_stop hp] at h
    exact Stop.outcome_injective h ▸ hp

theorem orElse_of_stop (h : p input = stop.outcome) : orElse p q input = stop.outcome := by
  cases stop <;> simp [orElse, h, Stop.outcome]

theorem orElse_of_mismatch {e : ε} (h : p input = .mismatch e) : orElse p q input = q input := by
  simp [orElse, h]

theorem cut_of_stop {relabel : Text → ε} (h : p input = stop.outcome) :
    cut relabel p input = stop.outcome := by
  cases stop <;> simp [cut, h, Stop.outcome]

/-- No mismatch leaves a cut. -/
theorem cut_ne_mismatch (relabel : Text → ε) (p : Parser ε α) (input : Text) (e : ε) :
    cut relabel p input ≠ .mismatch e := by
  simp only [cut]
  split <;> simp_all

/-- `Round p input place`: a repetition of `p` that begins at `input` comes to apply `p` to
`place`. -/
inductive Round (p : Parser ε α) : Text → Text → Prop
  | first (input : Text) : Round p input input
  | next {input rest place : Text} {v : α} (h : p input = .done v rest)
      (hlt : rest.length < input.length) (hrest : Round p rest place) : Round p input place

variable [RuleError ε] {rule : Rule}

theorem many_of_stop {place : Text} (hround : Round p input place) (h : p place = stop.outcome) :
    many rule p input = stop.outcome := by
  induction hround with
  | first input =>
      rw [many, h]
      cases stop <;> rfl
  | next hv hlt _ ih => rw [many_of_done hv hlt, ih h, Stop.andThen_outcome]

/-- A repetition stops only where one of its rounds does. -/
theorem exists_round_of_many_eq_stop (h : many rule p input = stop.outcome) :
    ∃ place, Round p input place ∧ p place = stop.outcome := by
  induction hn : input.length using Nat.strongRecOn generalizing input with
  | ind n ih =>
      rcases Stop.done_or_mismatch_or_stop (p input) with ⟨v, rest, hp⟩ | ⟨e, hp⟩ | ⟨stop', hp⟩
      · by_cases hlt : rest.length < input.length
        · rw [many_of_done hp hlt] at h
          rcases Stop.andThen_eq_outcome h with h | ⟨vs, last, -, h⟩
          · obtain ⟨place, hround, hplace⟩ := ih rest.length (hn ▸ hlt) h rfl
            exact ⟨place, .next hp hlt hround, hplace⟩
          · exact absurd h.symm (Stop.outcome_ne_done _ _)
        · rw [many, hp] at h
          simp only [if_neg hlt, reject] at h
          exact absurd h.symm (Stop.outcome_ne_mismatch _)
      · rw [many_of_mismatch hp] at h
        exact absurd h.symm (Stop.outcome_ne_done _ _)
      · rw [many_of_stop (.first input) hp] at h
        exact ⟨input, .first input, Stop.outcome_injective h ▸ hp⟩

end Combinators

namespace Tree

variable {stop : Stop Flaw} {t u v : Tree} {ts before after : List Tree} {input place mid : Text}

/-! ### Sequences and choices -/

theorem evalAll_cons (t : Tree) (ts : List Tree) (input : Text) :
    evalAll (t :: ts) input = (t.eval input).andThen fun v rest =>
      (evalAll ts rest).andThen fun vs rest => .done (v :: vs) rest :=
  rfl

theorem evalAll_append {vs : List Value} (h : evalAll before input = .done vs mid) :
    evalAll (before ++ ts) input =
      (evalAll ts mid).andThen fun ws rest => .done (vs ++ ws) rest := by
  induction before generalizing input vs with
  | nil =>
      cases h
      rw [List.nil_append]
      cases evalAll ts mid <;> rfl
  | cons t before ih =>
      obtain ⟨v, rest, hv, h⟩ := Outcome.andThen_eq_done.1 h
      obtain ⟨ws, last, hws, he⟩ := Outcome.andThen_eq_done.1 h
      cases he
      rw [List.cons_append, evalAll_cons, hv, Outcome.andThen_done, ih hws, Outcome.andThen_assoc]
      rfl

theorem evalAll_of_stop {vs : List Value} (h : evalAll before input = .done vs mid)
    (hu : u.eval mid = stop.outcome) : evalAll (before ++ u :: after) input = stop.outcome := by
  have hrest : evalAll (u :: after) mid = stop.outcome := by
    rw [evalAll_cons, hu, Stop.andThen_outcome]
  rw [evalAll_append h, hrest, Stop.andThen_outcome]

theorem exists_part_of_evalAll_eq_stop (h : evalAll ts input = stop.outcome) :
    ∃ before u after vs mid, ts = before ++ u :: after ∧ evalAll before input = .done vs mid ∧
      u.eval mid = stop.outcome := by
  induction ts generalizing input with
  | nil => exact absurd h.symm (Stop.outcome_ne_done _ _)
  | cons t ts ih =>
      rcases Stop.andThen_eq_outcome h with ht | ⟨v, rest, hv, h⟩
      · exact ⟨[], t, ts, [], input, rfl, rfl, ht⟩
      rcases Stop.andThen_eq_outcome h with hts | ⟨ws, last, -, h⟩
      · obtain ⟨before, u, after, vs, mid, rfl, hbefore, hu⟩ := ih hts
        refine ⟨t :: before, u, after, v :: vs, mid, rfl, ?_, hu⟩
        rw [evalAll_cons, hv, Outcome.andThen_done, hbefore, Outcome.andThen_done]
      · exact absurd h.symm (Stop.outcome_ne_done _ _)

/-- None of the trees matches. -/
def AllMismatch (ts : List Tree) (input : Text) : Prop :=
  ∀ t ∈ ts, ∃ e, t.eval input = .mismatch e

theorem evalFirst_of_stop (h : AllMismatch before input) (hu : u.eval input = stop.outcome) :
    evalFirst (before ++ u :: after) input = stop.outcome := by
  induction before with
  | nil =>
      cases after with
      | nil => exact hu
      | cons w after => exact orElse_of_stop hu
  | cons t before ih =>
      obtain ⟨⟨e, ht⟩, hbefore⟩ := List.forall_mem_cons.1 h
      have hne : before ++ u :: after ≠ [] := by simp
      obtain ⟨w, ws, hws⟩ := List.exists_cons_of_ne_nil hne
      have hrest := ih hbefore
      rw [hws] at hrest
      rw [List.cons_append, hws]
      exact (orElse_of_mismatch ht).trans hrest

theorem exists_choice_of_evalFirst_eq_stop (h : evalFirst ts input = stop.outcome) :
    ∃ before u after, ts = before ++ u :: after ∧ AllMismatch before input ∧
      u.eval input = stop.outcome := by
  induction ts with
  | nil => exact absurd h.symm (Stop.outcome_ne_mismatch _)
  | cons t ts ih =>
      have hnone : AllMismatch [] input := by
        intro u hu
        cases hu
      cases ts with
      | nil => exact ⟨[], t, [], rfl, hnone, h⟩
      | cons w ts =>
          rcases Stop.done_or_mismatch_or_stop (t.eval input) with
            ⟨x, rest, ht⟩ | ⟨e, ht⟩ | ⟨stop', ht⟩
          · rw [evalFirst, orElse, ht] at h
            exact absurd h.symm (Stop.outcome_ne_done _ _)
          · obtain ⟨before, u, after, he, hbefore, hu⟩ :=
              ih ((orElse_of_mismatch ht).symm.trans h)
            refine ⟨t :: before, u, after, by rw [he, List.cons_append], ?_, hu⟩
            exact List.forall_mem_cons.2 ⟨⟨e, ht⟩, hbefore⟩
          · have hstop := (orElse_of_stop ht).symm.trans h
            exact ⟨[], t, w :: ts, rfl, hnone, Stop.outcome_injective hstop ▸ ht⟩

/-! ### Which trees are applied, and where -/

/-- `Calls t input u place`: evaluated on `input`, the tree `t` applies `u`, one of the trees it is
made of, to `place`. -/
inductive Calls : Tree → Text → Tree → Text → Prop
  /-- A part of a sequence, behind what the parts before it have read. -/
  | part {before : List Tree} (u : Tree) (after : List Tree) {input place : Text} {vs : List Value}
      (h : evalAll before input = .done vs place) :
      Calls (.seq (before ++ u :: after)) input u place
  /-- A choice, where none of those before it matches. -/
  | choice {before : List Tree} (u : Tree) (after : List Tree) {input : Text}
      (h : AllMismatch before input) : Calls (.alt (before ++ u :: after)) input u input
  /-- What is repeated, once for every round. -/
  | round {u : Tree} {input place : Text} (h : Round u.eval input place) :
      Calls (.many u) input u place
  | option (u : Tree) (input : Text) : Calls (.opt u) input u input
  | inner (label : Text) (u : Tree) (input : Text) : Calls (.cut label u) input u input

/-- `Applies t input u place`: in the course of evaluating `t` on `input`, the tree `u` is applied
to `place`. -/
inductive Applies : Tree → Text → Tree → Text → Prop
  | self (t : Tree) (input : Text) : Applies t input t input
  | call {t u v : Tree} {input place spot : Text} (h : Calls t input u place)
      (hu : Applies u place v spot) : Applies t input v spot

/-- **One step**: what stops a tree stops the tree that applies it. -/
theorem Calls.eval_eq_stop (h : Calls t input u place) (hu : u.eval place = stop.outcome) :
    t.eval input = stop.outcome := by
  cases h with
  | part u after h => exact map_of_stop _ (evalAll_of_stop h hu)
  | choice u after h => exact evalFirst_of_stop h hu
  | round h => exact map_of_stop _ (many_of_stop h hu)
  | option => exact map_of_stop _ (opt_of_stop hu)
  | inner label => exact cut_of_stop hu

/-- **Any number of steps**: what stops a tree stops every evaluation in which it is applied. -/
theorem Applies.eval_eq_stop (h : Applies t input u place) (hu : u.eval place = stop.outcome) :
    t.eval input = stop.outcome := by
  induction h with
  | self => exact hu
  | call h _ ih => exact h.eval_eq_stop (ih hu)

/-- **No way back.** A failure or an incomplete text, wherever it comes up in an evaluation, is the
answer of the whole evaluation as it stands. A cut does not mismatch, and where the tree it commits
to does, the whole evaluation fails with the label of that cut at the place where that cut began. -/
theorem eval_eq_of_applies (h : Applies t input u place) :
    (∀ flaw, u.eval place = .failure flaw → t.eval input = .failure flaw) ∧
      (∀ n, u.eval place = .incomplete n → t.eval input = .incomplete n) ∧
      ∀ label inner, u = .cut label inner → (∀ e, u.eval place ≠ .mismatch e) ∧
        ∀ e, inner.eval place = .mismatch e → t.eval input = .failure ⟨label, some place⟩ := by
  refine ⟨fun flaw hu => ?_, fun n hu => ?_, ?_⟩
  · exact h.eval_eq_stop (show u.eval place = (Stop.failure flaw).outcome from hu)
  · exact h.eval_eq_stop (show u.eval place = (Stop.incomplete n).outcome from hu)
  · rintro label inner rfl
    refine ⟨cut_ne_mismatch _ _ _, fun e he => ?_⟩
    have hcut : (Tree.cut label inner).eval place = .failure ⟨label, some place⟩ :=
      cut_of_mismatch he
    exact h.eval_eq_stop (show _ = (Stop.failure ⟨label, some place⟩).outcome from hcut)

/-- In the second round the part behind the `a` is missing. Around the inner cut stand a choice with
another tree to try, an outer cut, a repetition and an option. -/
theorem eval_of_mismatch_in_second_round :
    Applies (.opt (.many (.cut "outer".toList
        (.alt [.seq [.tag ['a'], .cut "inner".toList (.tag ['b'])], .tag ['c']]))))
        "cac".toList (.cut "inner".toList (.tag ['b'])) ['c'] ∧
      eval (.opt (.many (.cut "outer".toList
        (.alt [.seq [.tag ['a'], .cut "inner".toList (.tag ['b'])], .tag ['c']]))))
        "cac".toList = .failure ⟨"inner".toList, some ['c']⟩ := by
  have hround : Round (eval (.cut "outer".toList
      (.alt [.seq [.tag ['a'], .cut "inner".toList (.tag ['b'])], .tag ['c']])))
      "cac".toList ['a', 'c'] :=
    .next rfl (by decide) (.first ['a', 'c'])
  have hchoice : Calls (.alt [.seq [.tag ['a'], .cut "inner".toList (.tag ['b'])], .tag ['c']])
      ['a', 'c'] (.seq [.tag ['a'], .cut "inner".toList (.tag ['b'])]) ['a', 'c'] :=
    @Calls.choice [] _ [.tag ['c']] _ (by simp [AllMismatch])
  have hpart : Calls (.seq [.tag ['a'], .cut "inner".toList (.tag ['b'])]) ['a', 'c']
      (.cut "inner".toList (.tag ['b'])) ['c'] :=
    @Calls.part [.tag ['a']] _ [] _ _ _ rfl
  have happlies := Applies.call (.option _ _) <| .call (.round hround) <| .call (.inner _ _ _) <|
    .call hchoice <| .call hpart <| .self _ _
  exact ⟨happlies, ((eval_eq_of_applies happlies).2.2 _ _ rfl).2 _ rfl⟩

/-! ### Where a stop comes from -/

/-- A tree and a place that stop the parse of themselves. -/
inductive Origin : Tree → Text → Stop Flaw → Prop
  | fail (label place : Text) : Origin (.fail label) place (.failure ⟨label, none⟩)
  | cut {label : Text} {inner : Tree} {place : Text} {e : Flaw}
      (h : inner.eval place = .mismatch e) :
      Origin (.cut label inner) place (.failure ⟨label, some place⟩)
  /-- The text ends inside the one that is looked for. -/
  | streamTag {s place missing : Text} (hs : s = place ++ missing) (hne : missing ≠ []) :
      Origin (.streamTag s) place (.incomplete (Text.width missing))

theorem after?_eq_none_of_append {place missing : Text} (hne : missing ≠ []) :
    Text.after? (place ++ missing) place = none := by
  rw [Text.after?_eq_none_iff]
  intro h
  have hlength := h.length_le
  have := List.length_pos_iff.2 hne
  rw [List.length_append] at hlength
  omega

theorem Origin.eval_eq_stop (h : Origin u place stop) : u.eval place = stop.outcome := by
  cases h with
  | fail => rfl
  | cut h => exact cut_of_mismatch h
  | @streamTag s place missing hs hne =>
      have hmissing : Text.after? place s = some missing := Text.after?_eq_some_iff.2 hs
      change (Parsing.streamTag s place).andThen _ = _
      rw [Parsing.streamTag, hs, after?_eq_none_of_append hne, ← hs, hmissing]
      rfl

theorem origin_of_streamTag_eq_stop {s : Text}
    (h : (Parsing.streamTag s : Parser Flaw Text) input = stop.outcome) :
    Origin (.streamTag s) input stop := by
  simp only [Parsing.streamTag] at h
  split at h
  · exact absurd h.symm (Stop.outcome_ne_done _ _)
  · next hnone =>
      split at h
      · next missing hmissing =>
          have hs := Text.after?_eq_some_iff.1 hmissing
          have hne : missing ≠ [] := by
            rintro rfl
            have hall : Text.after? s input = some [] :=
              Text.after?_eq_some_iff.2 (by simpa using hs.symm)
            rw [hnone] at hall
            cases hall
          have hstop : Stop.incomplete (Text.width missing) = stop := Stop.outcome_injective h
          exact hstop ▸ .streamTag hs hne
      · exact absurd h.symm (Stop.outcome_ne_mismatch _)

/-- Every stop has an origin among the trees that are applied. -/
theorem exists_origin (h : t.eval input = stop.outcome) :
    ∃ u place, Applies t input u place ∧ Origin u place stop := by
  induction t generalizing input with
  | tag s =>
      have hs : Parsing.tag s input = stop.outcome := eq_stop_of_map_eq_stop h
      simp only [Parsing.tag] at hs
      split at hs
      · exact absurd hs.symm (Stop.outcome_ne_done _ _)
      · exact absurd hs.symm (Stop.outcome_ne_mismatch _)
  | streamTag s =>
      exact ⟨_, input, .self _ _, origin_of_streamTag_eq_stop (eq_stop_of_map_eq_stop h)⟩
  | seq parts ih =>
      obtain ⟨before, u, after, vs, mid, rfl, hbefore, hu⟩ :=
        exists_part_of_evalAll_eq_stop (eq_stop_of_map_eq_stop h)
      obtain ⟨w, place, happlies, horigin⟩ := ih u (by simp) hu
      exact ⟨w, place, .call (.part u after hbefore) happlies, horigin⟩
  | alt choices ih =>
      obtain ⟨before, u, after, rfl, hbefore, hu⟩ := exists_choice_of_evalFirst_eq_stop h
      obtain ⟨w, place, happlies, horigin⟩ := ih u (by simp) hu
      exact ⟨w, place, .call (.choice u after hbefore) happlies, horigin⟩
  | many item ih =>
      obtain ⟨mid, hround, hu⟩ := exists_round_of_many_eq_stop (eq_stop_of_map_eq_stop h)
      obtain ⟨w, place, happlies, horigin⟩ := ih hu
      exact ⟨w, place, .call (.round hround) happlies, horigin⟩
  | opt item ih =>
      have hu : item.eval input = stop.outcome := eq_stop_of_opt_eq_stop (eq_stop_of_map_eq_stop h)
      obtain ⟨w, place, happlies, horigin⟩ := ih hu
      exact ⟨w, place, .call (.option item input) happlies, horigin⟩
  | cut label inner ih =>
      rcases Stop.done_or_mismatch_or_stop (inner.eval input) with
        ⟨v, rest, hi⟩ | ⟨e, hi⟩ | ⟨stop', hi⟩
      · exact absurd (h.symm.trans (cut_of_done hi)) (Stop.outcome_ne_done _ _)
      · -- The cut itself is where the failure begins.
        have hcut : (Stop.failure ⟨label, some input⟩).outcome = stop.outcome :=
          (cut_of_mismatch hi).symm.trans h
        exact ⟨_, input, .self _ _, Stop.outcome_injective hcut ▸ .cut hi⟩
      · have hcut := (cut_of_stop hi).symm.trans h
        obtain ⟨w, place, happlies, horigin⟩ := ih (Stop.outcome_injective hcut ▸ hi)
        exact ⟨w, place, .call (.inner label inner input) happlies, horigin⟩
  | fail label =>
      have hfail : (Stop.failure ⟨label, none⟩).outcome = stop.outcome := h
      exact ⟨_, input, .self _ _, Stop.outcome_injective hfail ▸ .fail label input⟩

/-- **Failures and incomplete texts are those of their origins**, whichever trees stand around. -/
theorem eval_eq_stop_iff :
    t.eval input = stop.outcome ↔ ∃ u place, Applies t input u place ∧ Origin u place stop := by
  constructor
  · exact exists_origin
  · rintro ⟨u, place, happlies, horigin⟩
    exact happlies.eval_eq_stop horigin.eval_eq_stop

end Tree

end Declarator.Parsing
