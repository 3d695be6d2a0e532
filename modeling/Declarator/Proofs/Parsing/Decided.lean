import Declarator.Proofs.Parsing.Commitment

/-!
# Parsers that decide

Of the single steps only the stream tag waits for more of the text. A parser that is made without it
decides every text as it stands.

* `Decides`: a parser never finds its text incomplete.
* `Decides.bind`, `Decides.cut`, `Decides.within`, `Decides.many`, `Decides.separatedList1`,
  `Decides.mapM`: this passes to the parsers made of such parsers.
-/

namespace Declarator.Parsing

variable {ε α β : Type}

/-- No text is incomplete for the parser. -/
def Decides (p : Parser ε α) : Prop :=
  ∀ input n, p input ≠ .incomplete n

namespace Decides

variable {p : Parser ε α} {q : Parser ε β}

theorem pure (v : α) : Decides (Pure.pure v : Parser ε α) := by
  intro input n h
  cases h

theorem fail (e : ε) : Decides (Parsing.fail e : Parser ε α) := by
  intro input n h
  cases h

theorem bind {f : α → Parser ε β} (h : Decides p) (hf : ∀ v, Decides (f v)) :
    Decides (p >>= f) := by
  intro input n hn
  have hstop : (p >>= f) input = (Stop.incomplete n).outcome := hn
  rcases Stop.andThen_eq_outcome hstop with hp | ⟨v, rest, -, hv⟩
  · exact h input n hp
  · exact hf v rest n hv

theorem cut (h : Decides p) (relabel : Text → ε) : Decides (Parsing.cut relabel p) := by
  intro input n hn
  simp only [Parsing.cut] at hn
  split at hn
  · cases hn
  · exact h input n hn

theorem within (h : Decides p) (text : Text) : Decides (Parsing.within text p) := by
  intro input n hn
  have hstop : Parsing.within text p input = (Stop.incomplete n).outcome := hn
  rcases Stop.andThen_eq_outcome hstop with hp | ⟨v, rest, -, hv⟩
  · exact h text n hp
  · cases hv

theorem mapM {p : α → Parser ε β} (h : ∀ a, Decides (p a)) (l : List α) : Decides (l.mapM p) := by
  induction l with
  | nil => exact pure []
  | cons a l ih =>
      rw [List.mapM_cons]
      exact (h a).bind fun b => ih.bind fun bs => pure (b :: bs)

theorem takeTill (stop : Char → Bool) : Decides (Parsing.takeTill stop : Parser ε Text) := by
  intro input n h
  cases h

variable [RuleError ε]

theorem takeTill1 (stop : Char → Bool) : Decides (Parsing.takeTill1 stop : Parser ε Text) := by
  intro input n h
  simp only [Parsing.takeTill1] at h
  split at h <;> cases h

theorem takeWhile1 (keep : Char → Bool) : Decides (Parsing.takeWhile1 keep : Parser ε Text) := by
  intro input n h
  simp only [Parsing.takeWhile1] at h
  split at h <;> cases h

theorem char (c : Char) : Decides (Parsing.char c : Parser ε Char) := by
  intro input n h
  cases input with
  | nil => cases h
  | cons d rest =>
      simp only [Parsing.char] at h
      split at h <;> cases h

theorem eof : Decides (Parsing.eof : Parser ε Unit) := by
  intro input n h
  cases input with
  | nil => cases h
  | cons c rest => cases h

theorem allConsuming (h : Decides p) : Decides (Parsing.allConsuming p) :=
  h.bind fun v => eof.bind fun _ => pure v

/-- A repetition that waits for more of the text does so in one of its rounds. -/
theorem many (h : Decides p) (rule : Rule) : Decides (Parsing.many rule p) := by
  intro input n hn
  have hstop : Parsing.many rule p input = (Stop.incomplete n).outcome := hn
  obtain ⟨place, -, hplace⟩ := exists_round_of_many_eq_stop hstop
  exact h place n hplace

theorem separatedList1 (hq : Decides q) (h : Decides p) : Decides (Parsing.separatedList1 q p) :=
  h.bind fun first =>
    ((hq.bind fun _ => h).many .separatedList).bind fun others => pure (first :: others)

end Decides

end Declarator.Parsing
