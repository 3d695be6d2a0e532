import Declarator.Parsing.Combinator

/-!
# Parsers that give a verdict

A parser that is committed wherever it can go wrong either reads a value or fails: its outcome is
a verdict, together with the text that is left. Verdicts follow one another like the parsers that
give them.

* `Outcome.ofVerdict`: a verdict as an outcome.
* `andThen_ofVerdict`, `mapM_ofVerdict`: one parser with a verdict after another, and a list of
  them.
* `many_of_done`, `many_of_mismatch`: one round of a repetition.
-/

namespace Declarator.Parsing

variable {ε α β : Type}

/-! ### Verdicts -/

theorem verdict_bind_eq_ok {x : Except ε α} {f : α → Except ε β} {w : β} :
    (x >>= f) = .ok w ↔ ∃ v, x = .ok v ∧ f v = .ok w := by
  cases x with
  | ok v => simp [bind, Except.bind]
  | error e => simp [bind, Except.bind]

namespace Outcome

/-- A verdict as an outcome: a value with `rest` left, or a failure. -/
def ofVerdict (rest : Text) : Except ε α → Outcome ε α
  | .ok v => .done v rest
  | .error e => .failure e

@[simp] theorem ofVerdict_ok (rest : Text) (v : α) :
    ofVerdict rest (.ok v : Except ε α) = .done v rest := rfl

@[simp] theorem ofVerdict_error (rest : Text) (e : ε) :
    ofVerdict rest (.error e : Except ε α) = .failure e := rfl

@[simp] theorem andThen_done (v : α) (rest : Text) (f : α → Text → Outcome ε β) :
    (done v rest).andThen f = f v rest := rfl

theorem andThen_assoc {γ : Type} (x : Outcome ε α) (f : α → Text → Outcome ε β)
    (g : β → Text → Outcome ε γ) :
    (x.andThen f).andThen g = x.andThen fun v rest => (f v rest).andThen g := by
  cases x <;> rfl

/-- One verdict after another. -/
theorem andThen_ofVerdict {x : Except ε α} {f : α → Except ε β} {g : α → Text → Outcome ε β}
    {mid rest : Text} (h : ∀ v, g v mid = ofVerdict rest (f v)) :
    (ofVerdict mid x).andThen g = ofVerdict rest (x >>= f) := by
  cases x with
  | ok v => exact h v
  | error e => rfl

@[simp] theorem settle_ofVerdict (early : ε) (rest : Text) (x : Except ε α) :
    (ofVerdict rest x).settle early = x := by
  cases x <;> rfl

theorem ofVerdict_ne_mismatch (rest : Text) (x : Except ε α) (e : ε) :
    ofVerdict rest x ≠ .mismatch e := by
  cases x <;> simp

end Outcome

open Outcome

/-- A list of parsers with verdicts, none of which takes text. -/
theorem mapM_ofVerdict {p : α → Parser ε β} {f : α → Except ε β} {input : Text}
    (h : ∀ a, p a input = ofVerdict input (f a)) (l : List α) :
    (l.mapM p) input = ofVerdict input (l.mapM f) := by
  induction l with
  | nil => rfl
  | cons a l ih =>
      rw [List.mapM_cons, List.mapM_cons, Parser.bind_apply, h]
      refine andThen_ofVerdict fun b => ?_
      rw [Parser.bind_apply, ih]
      exact andThen_ofVerdict fun bs => rfl

/-! ### Single steps -/

theorem cut_of_mismatch {relabel : Text → ε} {p : Parser ε α} {t : Text} {e : ε}
    (h : p t = .mismatch e) : cut relabel p t = .failure (relabel t) := by
  simp [cut, h]

theorem cut_of_done {relabel : Text → ε} {p : Parser ε α} {t rest : Text} {v : α}
    (h : p t = .done v rest) : cut relabel p t = .done v rest := by
  simp [cut, h]

section Steps

variable [RuleError ε]

theorem takeTill1_cons {stop : Char → Bool} {c : Char} (h : stop c = false) (t : Text) :
    (takeTill1 stop : Parser ε Text) (c :: t) =
      .done ((c :: t).takeWhile (!stop ·)) ((c :: t).dropWhile (!stop ·)) := by
  simp [takeTill1, h]

theorem takeTill1_mismatch {stop : Char → Bool} {t : Text} (h : ∀ c ∈ t.head?, stop c = true) :
    (takeTill1 stop : Parser ε Text) t = .mismatch (RuleError.ofRule .takeTill1 t) := by
  cases t with
  | nil => rfl
  | cons c t =>
      have hc : stop c = true := h c (by simp)
      simp [takeTill1, hc, reject]

theorem takeWhile1_cons {keep : Char → Bool} {c : Char} (h : keep c = true) (t : Text) :
    (takeWhile1 keep : Parser ε Text) (c :: t) =
      .done ((c :: t).takeWhile keep) ((c :: t).dropWhile keep) := by
  simp [takeWhile1, h]

theorem char_cons_self (c : Char) (t : Text) : (char c : Parser ε Char) (c :: t) = .done c t := by
  simp [char]

theorem char_mismatch {c : Char} {t : Text} (h : t.head? ≠ some c) :
    (char c : Parser ε Char) t = .mismatch (RuleError.ofRule .char t) := by
  cases t with
  | nil => rfl
  | cons d t =>
      have hd : d ≠ c := by simpa using h
      simp [char, hd, reject]

theorem allConsuming_of_done {p : Parser ε α} {t : Text} {v : α} (h : p t = .done v []) :
    allConsuming p t = .done v [] := by
  simp [allConsuming, h, eof]

/-! ### Repetition -/

variable {rule : Rule} {p : Parser ε α} {t : Text}

theorem many_of_mismatch {e : ε} (h : p t = .mismatch e) : many rule p t = .done [] t := by
  rw [many, h]

theorem many_of_done {v : α} {rest : Text} (h : p t = .done v rest)
    (hlt : rest.length < t.length) :
    many rule p t = (many rule p rest).andThen fun vs rest => .done (v :: vs) rest := by
  rw [many, h]
  exact if_pos hlt

theorem separatedList1_of_done {separator : Parser ε β} {v : α} {vs : List α} {mid rest : Text}
    (h : p t = .done v mid)
    (hmany : many .separatedList (do let _ ← separator; p) mid = .done vs rest) :
    separatedList1 separator p t = .done (v :: vs) rest := by
  change (p t).andThen (fun v mid =>
    (many .separatedList (do let _ ← separator; p) mid).andThen fun vs rest =>
      .done (v :: vs) rest) = _
  rw [h, andThen_done, hmany, andThen_done]

end Steps

end Declarator.Parsing
