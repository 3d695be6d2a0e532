import Declarator.Parsing.Tree
import Mathlib.Logic.Relation

/-!
# Trees and what they read

* `Tree.induction`: what is shown of a tree from what is known of the trees it is made of.
* `Tree.Contains`: the trees inside a tree.
* `Conserves`: a parser loses and invents no text. `Tree.conserves_eval`: **so does every tree**,
  as what a tree has read is put together again from its value and the rest.
-/

namespace Declarator.Parsing

variable {ε α β : Type}

/-! ### Trees inside trees -/

namespace Tree

@[elab_as_elim, induction_eliminator]
theorem induction {motive : Tree → Prop} (tag : ∀ s, motive (.tag s))
    (streamTag : ∀ s, motive (.streamTag s))
    (seq : ∀ parts, (∀ t ∈ parts, motive t) → motive (.seq parts))
    (alt : ∀ choices, (∀ t ∈ choices, motive t) → motive (.alt choices))
    (many : ∀ item, motive item → motive (.many item))
    (opt : ∀ item, motive item → motive (.opt item))
    (cut : ∀ label inner, motive inner → motive (.cut label inner))
    (fail : ∀ label, motive (.fail label)) (t : Tree) : motive t :=
  match t with
  | .tag s => tag s
  | .streamTag s => streamTag s
  | .seq parts => seq parts fun t _ => induction tag streamTag seq alt many opt cut fail t
  | .alt choices => alt choices fun t _ => induction tag streamTag seq alt many opt cut fail t
  | .many item => many item (induction tag streamTag seq alt many opt cut fail item)
  | .opt item => opt item (induction tag streamTag seq alt many opt cut fail item)
  | .cut label inner => cut label inner (induction tag streamTag seq alt many opt cut fail inner)
  | .fail label => fail label

/-- `Child t u`: the tree `t` is put together of `u` and maybe others. -/
inductive Child : Tree → Tree → Prop
  | part {parts : List Tree} {u : Tree} (h : u ∈ parts) : Child (.seq parts) u
  | choice {choices : List Tree} {u : Tree} (h : u ∈ choices) : Child (.alt choices) u
  | item (u : Tree) : Child (.many u) u
  | option (u : Tree) : Child (.opt u) u
  | inner (label : Text) (u : Tree) : Child (.cut label u) u

/-- `Contains t u`: the tree `u` is `t` or stands somewhere inside it. -/
def Contains : Tree → Tree → Prop :=
  Relation.ReflTransGen Child

theorem Child.contains {t u v : Tree} (h : Child t u) (hu : Contains u v) : Contains t v :=
  .head h hu

end Tree

/-! ### Nothing lost and nothing invented -/

mutual

/-- The text that a value was read from. -/
def Value.source : Value → Text
  | .null => []
  | .text t => t
  | .list items => sourceAll items

/-- The text that values were read from one after another. -/
def Value.sourceAll : List Value → Text
  | [] => []
  | v :: vs => v.source ++ sourceAll vs

end

theorem Value.sourceAll_eq (vs : List Value) : Value.sourceAll vs = vs.flatMap Value.source := by
  induction vs with
  | nil => rfl
  | cons v vs ih => rw [Value.sourceAll, ih, List.flatMap_cons]

theorem Outcome.andThen_eq_done {x : Outcome ε α} {f : α → Text → Outcome ε β} {w : β}
    {rest : Text} :
    x.andThen f = .done w rest ↔ ∃ v mid, x = .done v mid ∧ f v mid = .done w rest := by
  cases x with
  | done v mid => simp [Outcome.andThen, and_assoc]
  | mismatch e => simp [Outcome.andThen]
  | failure e => simp [Outcome.andThen]
  | incomplete n => simp [Outcome.andThen]

/-- Where the parser matches, its value is from the front of the text and the rest follows. -/
def Conserves (source : α → Text) (p : Parser ε α) : Prop :=
  ∀ ⦃input v rest⦄, p input = .done v rest → input = source v ++ rest

namespace Conserves

variable {source : α → Text} {p q : Parser ε α}

theorem suffix (h : Conserves source p) {input rest : Text} {v : α}
    (hv : p input = .done v rest) : rest <:+ input :=
  ⟨source v, (h hv).symm⟩

theorem map (h : Conserves source p) {f : α → β} {source' : β → Text}
    (hf : ∀ v, source' (f v) = source v) : Conserves source' (f <$> p) := by
  intro input w rest hw
  obtain ⟨v, mid, hv, he⟩ := Outcome.andThen_eq_done.1 hw
  cases he
  rw [hf]
  exact h hv

theorem opt (h : Conserves source p) : Conserves (fun o => o.elim [] source) (opt p) := by
  intro input o rest ho
  simp only [Parsing.opt] at ho
  split at ho
  · next v mid hv =>
      cases ho
      exact h hv
  · cases ho
    rfl
  · cases ho
  · cases ho

theorem orElse (hp : Conserves source p) (hq : Conserves source q) :
    Conserves source (orElse p q) := by
  intro input v rest hv
  simp only [Parsing.orElse] at hv
  split at hv
  · exact hq hv
  · exact hp hv

theorem cut (h : Conserves source p) (relabel : Text → ε) : Conserves source (cut relabel p) := by
  intro input v rest hv
  simp only [Parsing.cut] at hv
  split at hv
  · cases hv
  · exact h hv

theorem fail (e : ε) : Conserves source (fail e) := by
  intro input v rest hv
  cases hv

variable [RuleError ε]

theorem reject (rule : Rule) : Conserves source (reject rule : Parser ε α) := by
  intro input v rest hv
  cases hv

theorem tag (s : Text) : Conserves id (tag s : Parser ε Text) := by
  intro input v rest hv
  simp only [Parsing.tag] at hv
  split at hv
  · next mid hs =>
      cases hv
      exact Text.after?_eq_some_iff.1 hs
  · cases hv

theorem streamTag (s : Text) : Conserves id (streamTag s : Parser ε Text) := by
  intro input v rest hv
  simp only [Parsing.streamTag] at hv
  split at hv
  · next mid hs =>
      cases hv
      exact Text.after?_eq_some_iff.1 hs
  · split at hv <;> cases hv

/-- The induction is on the text, which every round of the repetition shortens. -/
theorem many (h : Conserves source p) (rule : Rule) :
    Conserves (fun vs => vs.flatMap source) (many rule p) := by
  intro input
  induction hn : input.length using Nat.strongRecOn generalizing input with
  | ind n ih =>
      intro vs rest hvs
      rw [Parsing.many] at hvs
      split at hvs
      · next v mid hv =>
          split at hvs
          · next hlt =>
              obtain ⟨ws, last, hws, he⟩ := Outcome.andThen_eq_done.1 hvs
              cases he
              have hmid : mid = ws.flatMap source ++ rest := ih mid.length (hn ▸ hlt) rfl hws
              calc input = source v ++ mid := h hv
                _ = source v ++ (ws.flatMap source ++ rest) := by rw [← hmid]
                _ = (v :: ws).flatMap source ++ rest := by simp
          · cases hvs
      · cases hvs
        rfl
      · cases hvs
      · cases hvs

end Conserves

namespace Tree

theorem conserves_evalAll {ts : List Tree} (h : ∀ t ∈ ts, Conserves Value.source t.eval) :
    Conserves (fun vs => vs.flatMap Value.source) (evalAll ts) := by
  induction ts with
  | nil =>
      intro input vs rest hvs
      cases hvs
      rfl
  | cons t ts ih =>
      obtain ⟨ht, hts⟩ := List.forall_mem_cons.1 h
      intro input vs rest hvs
      obtain ⟨v, mid, hv, hvs⟩ := Outcome.andThen_eq_done.1 hvs
      obtain ⟨ws, last, hws, he⟩ := Outcome.andThen_eq_done.1 hvs
      cases he
      have hmid : mid = ws.flatMap Value.source ++ rest := ih hts hws
      calc input = v.source ++ mid := ht hv
        _ = v.source ++ (ws.flatMap Value.source ++ rest) := by rw [← hmid]
        _ = (v :: ws).flatMap Value.source ++ rest := by simp

theorem conserves_evalFirst {ts : List Tree} (h : ∀ t ∈ ts, Conserves Value.source t.eval) :
    Conserves Value.source (evalFirst ts) := by
  induction ts with
  | nil => exact .reject _
  | cons t ts ih =>
      obtain ⟨ht, hts⟩ := List.forall_mem_cons.1 h
      cases ts with
      | nil => exact ht
      | cons u ts => exact ht.orElse (ih hts)

/-- **A tree loses and invents no text**: its value and what is left are its text. -/
theorem conserves_eval (t : Tree) : Conserves Value.source t.eval := by
  induction t with
  | tag s => exact (Conserves.tag s).map fun _ => rfl
  | streamTag s => exact (Conserves.streamTag s).map fun _ => rfl
  | seq parts ih => exact (conserves_evalAll ih).map Value.sourceAll_eq
  | alt choices ih => exact conserves_evalFirst ih
  | many item ih => exact (ih.many .many0).map Value.sourceAll_eq
  | opt item ih =>
      refine ih.opt.map fun o => ?_
      cases o with
      | none => rfl
      | some v => rfl
  | cut label inner ih => exact ih.cut _
  | fail label => exact .fail _

end Tree

end Declarator.Parsing
