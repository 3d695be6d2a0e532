import Declarator.Json.Problem

/-!
# Reading JSON from the left

A reader takes the front of a text and leaves the rest, or refuses the text at the first problem
it meets. Nothing behind that problem is looked at.

- `Json.Reader` : readers; they follow one another as a monad.
- `Json.Shrinks`, `Json.Keeps` : a reader that takes something, and one that gives nothing back.
- `Json.skipBlanks`, `Json.literal`, `Json.colon`, `Json.close` : what stands between values.
-/

namespace Declarator.Json

/-- A reader of values `α`. -/
abbrev Reader (α : Type) := StateT Text (Except Problem) α

variable {α β : Type}

/-- The reader takes at least one character. -/
def Shrinks (r : Reader α) : Prop :=
  ∀ ⦃s v rest⦄, r s = .ok (v, rest) → rest.length < s.length

/-- The reader leaves no more than it was given. -/
def Keeps (r : Reader α) : Prop :=
  ∀ ⦃s v rest⦄, r s = .ok (v, rest) → rest.length ≤ s.length

theorem Shrinks.keeps {r : Reader α} (h : Shrinks r) : Keeps r :=
  fun _ _ _ hr => Nat.le_of_lt (h hr)

theorem bind_eq_ok {r : Reader α} {f : α → Reader β} {s : Text} {w : β} {rest : Text} :
    (r >>= f) s = .ok (w, rest) ↔ ∃ v mid, r s = .ok (v, mid) ∧ f v mid = .ok (w, rest) := by
  change (r s).bind (fun p => f p.1 p.2) = _ ↔ _
  cases r s with
  | error p => simp [Except.bind]
  | ok p =>
      obtain ⟨v, mid⟩ := p
      simp [Except.bind, and_assoc]

theorem pure_eq_ok {v w : α} {s rest : Text} :
    (pure v : Reader α) s = .ok (w, rest) ↔ v = w ∧ s = rest := by
  change Except.ok (v, s) = _ ↔ _
  simp

theorem keeps_pure (v : α) : Keeps (pure v : Reader α) := by
  intro s w rest h
  obtain ⟨-, rfl⟩ := pure_eq_ok.1 h
  exact Nat.le_refl _

theorem keeps_throw (p : Problem) : Keeps (throw p : Reader α) := by
  intro s v rest h
  cases h

theorem Keeps.bind {r : Reader α} {f : α → Reader β} (hr : Keeps r) (hf : ∀ v, Keeps (f v)) :
    Keeps (r >>= f) := by
  intro s w rest h
  obtain ⟨v, mid, hv, hw⟩ := bind_eq_ok.1 h
  exact Nat.le_trans (hf v hw) (hr hv)

theorem Shrinks.bind {r : Reader α} {f : α → Reader β} (hr : Shrinks r) (hf : ∀ v, Keeps (f v)) :
    Shrinks (r >>= f) := by
  intro s w rest h
  obtain ⟨v, mid, hv, hw⟩ := bind_eq_ok.1 h
  exact Nat.lt_of_le_of_lt (hf v hw) (hr hv)

theorem exists_of_map_eq_ok {x : Except Problem (α × Text)} {f : α → β} {w : β} {rest : Text}
    (h : (x.map fun p => (f p.1, p.2)) = .ok (w, rest)) : ∃ v, x = .ok (v, rest) := by
  cases x with
  | error p => cases h
  | ok p =>
      cases h
      exact ⟨p.1, rfl⟩

/-! ## Between values -/

/-- The characters that may stand between the parts of a JSON text. -/
def isBlank (c : Char) : Bool :=
  c == ' ' || c == '\n' || c == '\t' || c == '\r'

/-- The text after the blanks at its front. -/
def skipBlanks (s : Text) : Text :=
  s.dropWhile isBlank

theorem length_skipBlanks_le (s : Text) : (skipBlanks s).length ≤ s.length :=
  (List.dropWhile_sublist _).length_le

theorem length_lt_of_skipBlanks {s : Text} {c : Char} {rest : Text}
    (h : skipBlanks s = c :: rest) : rest.length < s.length := by
  have := length_skipBlanks_le s
  rw [h] at this
  exact this

/-- The given letters. -/
def literal : Text → Reader Unit
  | [], s => .ok ((), s)
  | _ :: _, [] => .error .truncated
  | a :: letters, c :: s => if c = a then literal letters s else .error .malformed

theorem keeps_literal (letters : Text) : Keeps (literal letters) := by
  induction letters with
  | nil => exact keeps_pure ()
  | cons a letters ih =>
      intro s v rest h
      match s with
      | [] => simp [literal] at h
      | c :: s =>
          simp only [literal] at h
          split at h
          · exact Nat.le_succ_of_le (ih h)
          · cases h

/-- A character after blanks. -/
def mark (c : Char) : Reader Unit :=
  fun s =>
    match skipBlanks s with
    | [] => .error .truncated
    | d :: rest => if d = c then .ok ((), rest) else .error .malformed

theorem shrinks_mark (c : Char) : Shrinks (mark c) := by
  intro s v rest h
  unfold mark at h
  split at h
  · cases h
  · next d r hs =>
      split at h
      · cases h
        exact length_lt_of_skipBlanks hs
      · cases h

/-- The colon between a key and its value. -/
def colon : Reader Unit :=
  mark ':'

end Declarator.Json
