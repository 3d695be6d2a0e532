import Declarator.Parsing.Rule

/-!
# Outcomes of a parser

A parser is applied to a text and answers in one of four ways. Only a mismatch invites another
attempt; a failure and an incomplete text end the whole parse.

- `Outcome` : the four answers.
- `Outcome.settle` : the verdict on a whole text.
- `Parser` : a function from a text to an outcome; parsers follow one another as a monad.
-/

namespace Declarator.Parsing

/-- What a parser answers. -/
inductive Outcome (ε α : Type) where
  /-- The parser matched and left `rest`. -/
  | done (value : α) (rest : Text)
  /-- The parser did not match; another may be tried in its place. -/
  | mismatch (e : ε)
  /-- The text is wrong whatever else is tried. -/
  | failure (e : ε)
  /-- The text ended where `missing` more bytes could have decided. -/
  | incomplete (missing : Nat)
  deriving DecidableEq

namespace Outcome

variable {ε α β : Type}

/-- Lets the second parser go on where the first has stopped. -/
def andThen : Outcome ε α → (α → Text → Outcome ε β) → Outcome ε β
  | .done v rest, f => f v rest
  | .mismatch e, _ => .mismatch e
  | .failure e, _ => .failure e
  | .incomplete n, _ => .incomplete n

/-- The verdict on a whole text. A text that ended before it was decided has none, and stands here
for `early`; this is applied to parsers that never answer so (`Decides`). -/
def settle (early : ε) : Outcome ε α → Except ε α
  | .done v _ => .ok v
  | .mismatch e => .error e
  | .failure e => .error e
  | .incomplete _ => .error early

end Outcome

/-- Verdicts can be compared. -/
instance decidableEqVerdict {ε α : Type} [DecidableEq ε] [DecidableEq α] :
    DecidableEq (Except ε α)
  | .ok v, .ok w => decidable_of_iff (v = w) (by rw [Except.ok.injEq])
  | .error e, .error f => decidable_of_iff (e = f) (by rw [Except.error.injEq])
  | .ok _, .error _ => isFalse nofun
  | .error _, .ok _ => isFalse nofun

/-- A parser of values `α` with errors `ε`. -/
def Parser (ε α : Type) := Text → Outcome ε α

namespace Parser

variable {ε α β : Type}

/-- Matches without taking anything. -/
protected def pure (v : α) : Parser ε α :=
  fun input => .done v input

/-- One parser after another. -/
protected def bind (p : Parser ε α) (f : α → Parser ε β) : Parser ε β :=
  fun input => (p input).andThen fun v rest => f v rest

instance : Monad (Parser ε) where
  pure := Parser.pure
  bind := Parser.bind

@[simp] theorem pure_apply (v : α) (input : Text) : (pure v : Parser ε α) input = .done v input :=
  rfl

@[simp] theorem bind_apply (p : Parser ε α) (f : α → Parser ε β) (input : Text) :
    (p >>= f) input = (p input).andThen fun v rest => f v rest :=
  rfl

@[simp] theorem map_apply (f : α → β) (p : Parser ε α) (input : Text) :
    (f <$> p) input = (p input).andThen fun v rest => .done (f v) rest :=
  rfl

instance : LawfulMonad (Parser ε) :=
  LawfulMonad.mk' _
    (fun p => by
      funext input
      simp only [map_apply]
      cases p input <;> rfl)
    (fun _ _ => rfl)
    (fun p _ _ => by
      funext input
      simp only [bind_apply]
      cases p input <;> rfl)

end Parser

end Declarator.Parsing
