import Declarator.Proofs.Parsing.Tree

/-!
# Cuts only prune

A cut turns a mismatch into a failure, and a failure is what no choice, option or repetition goes on
from. So a tree with cuts either answers as it would without them, or fails with the label of a cut:
which branches are tried may change with a cut, but never what is read.

* `FailsAt`: an outcome is a failure with one of some labels, at a place in the text.
* `Prunes`: a parser answers as another one does, or fails so. `Prunes.bind`, `Prunes.opt`,
  `Prunes.orElse`, `Prunes.many`, `Prunes.cut`: this passes to the parsers made of them.
* `Tree.eval_erase_or_failure`: **a tree prunes the tree without its cuts.**
-/

namespace Declarator.Parsing

variable {α β : Type}

/-! ### Failures of cuts -/

/-- A failure with one of the labels, at a place in the text `input`. -/
def FailsAt (labels : Text → Prop) (input : Text) (x : Outcome Flaw α) : Prop :=
  ∃ label place, labels label ∧ place <:+ input ∧ x = .failure ⟨label, some place⟩

namespace FailsAt

variable {labels : Text → Prop} {input : Text} {x : Outcome Flaw α}

theorem andThen (h : FailsAt labels input x) (f : α → Text → Outcome Flaw β) :
    FailsAt labels input (x.andThen f) := by
  obtain ⟨label, place, hlabel, hplace, rfl⟩ := h
  exact ⟨label, place, hlabel, hplace, rfl⟩

/-- A place in an end of the text is a place in the text. -/
theorem of_suffix {rest : Text} (h : FailsAt labels rest x) (hrest : rest <:+ input) :
    FailsAt labels input x := by
  obtain ⟨label, place, hlabel, hplace, rfl⟩ := h
  exact ⟨label, place, hlabel, hplace.trans hrest, rfl⟩

end FailsAt

/-! ### Pruning -/

/-- `p` answers as `q` does, or fails with one of the labels at a place in its text. -/
def Prunes (labels : Text → Prop) (p q : Parser Flaw α) : Prop :=
  ∀ input, p input = q input ∨ FailsAt labels input (p input)

namespace Prunes

variable {labels : Text → Prop} {p q p' q' : Parser Flaw α}

theorem refl (p : Parser Flaw α) : Prunes labels p p :=
  fun _ => .inl rfl

theorem mono {labels' : Text → Prop} (h : Prunes labels p q)
    (hlabels : ∀ label, labels label → labels' label) : Prunes labels' p q := by
  intro input
  rcases h input with he | ⟨label, place, hlabel, hplace, hf⟩
  · exact .inl he
  · exact .inr ⟨label, place, hlabels label hlabel, hplace, hf⟩

/-- What follows a match is applied to an end of the text, so its failures are in the text. -/
theorem bind {source : α → Text} {f g : α → Parser Flaw β} (h : Prunes labels p q)
    (hp : Conserves source p) (hf : ∀ v, Prunes labels (f v) (g v)) :
    Prunes labels (p >>= f) (q >>= g) := by
  intro input
  rw [Parser.bind_apply, Parser.bind_apply]
  rcases h input with he | hfail
  · rw [← he]
    cases hv : p input with
    | done v rest =>
        rcases hf v rest with he' | hfail
        · exact .inl he'
        · exact .inr (hfail.of_suffix (hp.suffix hv))
    | mismatch e => exact .inl rfl
    | failure e => exact .inl rfl
    | incomplete n => exact .inl rfl
  · exact .inr (hfail.andThen _)

theorem map (h : Prunes labels p q) (f : α → β) : Prunes labels (f <$> p) (f <$> q) := by
  intro input
  rw [Parser.map_apply, Parser.map_apply]
  rcases h input with he | hfail
  · exact .inl (by rw [he])
  · exact .inr (hfail.andThen _)

theorem opt (h : Prunes labels p q) : Prunes labels (opt p) (opt q) := by
  intro input
  rcases h input with he | ⟨label, place, hlabel, hplace, hfail⟩
  · exact .inl (by simp only [Parsing.opt, he])
  · exact .inr ⟨label, place, hlabel, hplace, by simp only [Parsing.opt, hfail]⟩

theorem orElse (h : Prunes labels p q) (h' : Prunes labels p' q') :
    Prunes labels (orElse p p') (orElse q q') := by
  intro input
  simp only [Parsing.orElse]
  rcases h input with he | ⟨label, place, hlabel, hplace, hfail⟩
  · rw [← he]
    cases p input with
    | done v rest => exact .inl rfl
    | mismatch e => exact h' input
    | failure e => exact .inl rfl
    | incomplete n => exact .inl rfl
  · exact .inr ⟨label, place, hlabel, hplace, by rw [hfail]⟩

/-- A cut that is left out. Where the cut changes the answer, it fails at the front of its text. -/
theorem cut {label : Text} (h : Prunes labels p q) (hlabel : labels label) :
    Prunes labels (cut (fun input => ⟨label, some input⟩) p) q := by
  intro input
  have hinput := h input
  simp only [Parsing.cut]
  cases hp : p input with
  | mismatch e => exact .inr ⟨label, input, hlabel, List.suffix_refl input, rfl⟩
  | done v rest =>
      rw [hp] at hinput
      exact hinput
  | failure e =>
      rw [hp] at hinput
      exact hinput
  | incomplete n =>
      rw [hp] at hinput
      exact hinput

/-- The induction is on the text, which every round of the repetition shortens. -/
theorem many {source : α → Text} (h : Prunes labels p q) (hp : Conserves source p) (rule : Rule) :
    Prunes labels (many rule p) (many rule q) := by
  intro input
  induction hn : input.length using Nat.strongRecOn generalizing input with
  | ind n ih =>
      rw [Parsing.many.eq_def rule p, Parsing.many.eq_def rule q]
      rcases h input with he | ⟨label, place, hlabel, hplace, hfail⟩
      · rw [← he]
        cases hv : p input with
        | done v rest =>
            by_cases hlt : rest.length < input.length
            · simp only [if_pos hlt]
              rcases ih rest.length (hn ▸ hlt) rest rfl with he' | hfail
              · exact .inl (by rw [he'])
              · exact .inr ((hfail.andThen _).of_suffix (hp.suffix hv))
            · simp only [if_neg hlt]
              exact .inl trivial
        | mismatch e => exact .inl rfl
        | failure e => exact .inl rfl
        | incomplete n => exact .inl rfl
      · exact .inr ⟨label, place, hlabel, hplace, by rw [hfail]⟩

end Prunes

/-! ### Trees -/

namespace Tree

/-- A label of one of the cuts in a tree. -/
def HasCut (t : Tree) (label : Text) : Prop :=
  ∃ inner, Contains t (.cut label inner)

theorem Child.hasCut {t u : Tree} (h : Child t u) (label : Text) (hu : HasCut u label) :
    HasCut t label := by
  obtain ⟨inner, hinner⟩ := hu
  exact ⟨inner, h.contains hinner⟩

theorem hasCut_cut (label : Text) (inner : Tree) : HasCut (.cut label inner) label :=
  ⟨inner, .refl⟩

variable {labels : Text → Prop}

theorem prunes_evalAll {ts : List Tree} (h : ∀ t ∈ ts, Prunes labels t.eval t.erase.eval) :
    Prunes labels (evalAll ts) (evalAll (eraseAll ts)) := by
  induction ts with
  | nil => exact .refl _
  | cons t ts ih =>
      obtain ⟨ht, hts⟩ := List.forall_mem_cons.1 h
      have hall : ∀ u ∈ ts, Conserves Value.source u.eval := fun u _ => conserves_eval u
      exact ht.bind (conserves_eval t) fun v =>
        (ih hts).bind (conserves_evalAll hall) fun vs => .refl _

theorem prunes_evalFirst {ts : List Tree} (h : ∀ t ∈ ts, Prunes labels t.eval t.erase.eval) :
    Prunes labels (evalFirst ts) (evalFirst (eraseAll ts)) := by
  induction ts with
  | nil => exact .refl _
  | cons t ts ih =>
      obtain ⟨ht, hts⟩ := List.forall_mem_cons.1 h
      cases ts with
      | nil => exact ht
      | cons u ts => exact ht.orElse (ih hts)

theorem prunes_eval (t : Tree) : Prunes (HasCut t) t.eval t.erase.eval := by
  induction t with
  | tag s => exact .refl _
  | streamTag s => exact .refl _
  | seq parts ih =>
      have hparts : ∀ u ∈ parts, Prunes (HasCut (.seq parts)) u.eval u.erase.eval :=
        fun u hu => (ih u hu).mono (Child.part hu).hasCut
      exact (prunes_evalAll hparts).map _
  | alt choices ih =>
      have hchoices : ∀ u ∈ choices, Prunes (HasCut (.alt choices)) u.eval u.erase.eval :=
        fun u hu => (ih u hu).mono (Child.choice hu).hasCut
      exact prunes_evalFirst hchoices
  | many item ih =>
      exact ((ih.mono (Child.item item).hasCut).many (conserves_eval item) .many0).map _
  | opt item ih => exact (ih.mono (Child.option item).hasCut).opt.map _
  | cut label inner ih =>
      exact (ih.mono (Child.inner label inner).hasCut).cut (hasCut_cut label inner)
  | fail label => exact .refl _

/-- **Cuts only prune.** A tree answers as it would without its cuts, or fails with the label of
one of its cuts at a place in the text. So whatever it answers but a failure, it would answer
without its cuts too. -/
theorem eval_erase_or_failure (t : Tree) (input : Text) :
    (t.eval input = t.erase.eval input ∨
      ∃ label inner place, Contains t (.cut label inner) ∧ place <:+ input ∧
        t.eval input = .failure ⟨label, some place⟩) ∧
    ((∀ flaw, t.eval input ≠ .failure flaw) → t.erase.eval input = t.eval input) := by
  have h := prunes_eval t input
  refine ⟨?_, fun hnot => ?_⟩
  · rcases h with he | ⟨label, place, ⟨inner, hinner⟩, hplace, hfail⟩
    · exact .inl he
    · exact .inr ⟨label, inner, place, hinner, hplace, hfail⟩
  · rcases h with he | ⟨label, place, -, -, hfail⟩
    · exact he.symm
    · exact absurd hfail (hnot _)

end Tree

end Declarator.Parsing
