import Declarator.Json.WellFormed
import Declarator.Proofs.Json.Reading
import Declarator.Proofs.Text.Cut

/-!
# Numbers are read to their end

A number does not say where it ends, so a reader takes it off a text only if something follows that
ends it.

* `Passes`: a reader takes a text off, given what follows. `Passes.bind`: one after another.
* `EndsNumber`: nothing follows that a number could go on with.
* `digits_append`: digits. `passes_readNumeral`: **numbers.**
-/

namespace Declarator.Json

variable {α β : Type}

/-! ### Readers that stop where they must -/

/-- The reader takes `t` off a text that goes on with `s`. -/
def Passes (r : Reader α) (t s : Text) : Prop :=
  ∃ v, r (t ++ s) = .ok (v, s)

theorem Passes.bind {r : Reader α} {f : α → Reader β} {t u s : Text} (h : Passes r t (u ++ s))
    (hf : ∀ v, Passes (f v) u s) : Passes (r >>= f) (t ++ u) s := by
  obtain ⟨v, hv⟩ := h
  obtain ⟨w, hw⟩ := hf v
  refine ⟨w, ?_⟩
  rw [List.append_assoc, bind_of_ok hv, hw]

/-- What was read may be dropped. -/
theorem Passes.forget {r : Reader α} {t s : Text} (h : Passes r t s) :
    Passes (fun u => (r u).map fun p => ((), p.2)) t s := by
  obtain ⟨v, hv⟩ := h
  refine ⟨(), ?_⟩
  change (r (t ++ s)).map _ = _
  rw [hv]
  rfl

theorem passes_pure (v : α) (s : Text) : Passes (pure v : Reader α) [] s :=
  ⟨v, rfl⟩

/-! ### Numbers -/

/-- No digit follows. -/
def EndsDigits (s : Text) : Prop :=
  ∀ c, s.head? = some c → isDigit c = false

theorem endsDigits_nil : EndsDigits [] := by
  intro c hc
  cases hc

theorem endsDigits_iff {s : Text} : EndsDigits s ↔ s.head?.any isDigit = false := by
  cases s with
  | nil => simp [endsDigits_nil]
  | cons c s => simp [EndsDigits]

/-- Nothing follows that a number could go on with. -/
structure EndsNumber (s : Text) : Prop where
  digits : EndsDigits s
  point : s.head? ≠ some '.'
  exponent : ∀ e, e = 'e' ∨ e = 'E' → s.head? ≠ some e

theorem Stops.endsNumber {s : Text} (h : Stops s) : EndsNumber s := by
  have hone : ∀ c, s.head? = some c → c ∈ [' ', '\n', '\t', '\r', ',', ']', '}'] := by
    intro c hc
    simpa [isBlank, or_assoc] using h c hc
  refine ⟨?_, ?_, ?_⟩
  · intro c hc
    have hall : ∀ c ∈ [' ', '\n', '\t', '\r', ',', ']', '}'], isDigit c = false := by
      simp [isDigit]
    exact hall c (hone c hc)
  · intro hc
    exact absurd (hone '.' hc) (by decide)
  · rintro e (rfl | rfl) hc
    · exact absurd (hone 'e' hc) (by decide)
    · exact absurd (hone 'E' hc) (by decide)

section Numbers

variable {early : Problem} {s : Text}

theorem digits_append {t : Text} (ht : IsDigits t) (hs : EndsDigits s) :
    digits early (t ++ s) = .ok (t, s) := by
  obtain ⟨hne, hdigits⟩ := ht
  rw [digits, Text.takeWhile_append_of_head? hdigits hs, Text.dropWhile_append_of_head? hdigits hs]
  cases t with
  | nil => exact absurd rfl hne
  | cons c t => rfl

theorem wholePart_zero (hs : EndsDigits s) : wholePart early ('0' :: s) = .ok (['0'], s) := by
  simp [wholePart, endsDigits_iff.1 hs]

theorem wholePart_of_ne_zero {c : Char} (hc : c ≠ '0') (s : Text) :
    wholePart early (c :: s) = digits early (c :: s) := by
  unfold wholePart
  split
  · next he => exact absurd (List.cons.inj he).1 hc
  · rfl

theorem passes_wholePart {t : Text} (ht : IsWhole t) (hs : EndsDigits s) :
    Passes (wholePart early) t s := by
  cases ht with
  | zero => exact ⟨['0'], wholePart_zero hs⟩
  | digits h hzero =>
      obtain ⟨c, ds, rfl⟩ := List.exists_cons_of_ne_nil h.1
      have hc : c ≠ '0' := by simpa using hzero
      exact ⟨c :: ds, (wholePart_of_ne_zero hc _).trans (digits_append h hs)⟩

theorem fractionPart_of_head? (hpoint : s.head? ≠ some '.') :
    fractionPart early s = .ok (none, s) := by
  unfold fractionPart
  split
  · exact absurd rfl hpoint
  · rfl

theorem passes_fractionPart {t : Text} (ht : IsFraction t) (hs : EndsDigits s)
    (hpoint : s.head? ≠ some '.') : Passes (fractionPart early) t s := by
  cases ht with
  | none => exact ⟨.none, fractionPart_of_head? hpoint⟩
  | @some ds h => exact ⟨.some ds, by simp [fractionPart, digits_append h hs, Except.map]⟩

theorem exponentSign_of_isDigits {t : Text} (h : IsDigits t) (s : Text) :
    exponentSign (t ++ s) = (false, t ++ s) := by
  obtain ⟨hne, hall⟩ := h
  obtain ⟨c, ds, rfl⟩ := List.exists_cons_of_ne_nil hne
  have hc : isDigit c = true := hall c List.mem_cons_self
  unfold exponentSign
  split
  · next he =>
      rw [(List.cons.inj he).1] at hc
      exact absurd hc (by decide)
  · next he =>
      rw [(List.cons.inj he).1] at hc
      exact absurd hc (by decide)
  · rfl

theorem exponentPart_of_head? (hs : ∀ e, e = 'e' ∨ e = 'E' → s.head? ≠ some e) :
    exponentPart early s = .ok (none, s) := by
  cases s with
  | nil => rfl
  | cons c s =>
      have hc : ¬ (c = 'e' ∨ c = 'E') := fun hc => hs c hc rfl
      rw [exponentPart, if_neg hc]

theorem passes_exponentPart {t : Text} (ht : IsExponent t) (hs : EndsNumber s) :
    Passes (exponentPart early) t s := by
  cases ht with
  | none => exact ⟨.none, exponentPart_of_head? hs.exponent⟩
  | @unsigned e ds he h =>
      refine ⟨.some (false, ds), ?_⟩
      rw [List.cons_append, exponentPart, if_pos he, exponentSign_of_isDigits h,
        digits_append h hs.digits]
      rfl
  | @signed e sign ds he hsign h =>
      rcases hsign with rfl | rfl
      · refine ⟨.some (false, ds), ?_⟩
        rw [List.cons_append, exponentPart, if_pos he]
        simp [exponentSign, digits_append h hs.digits, Except.map]
      · refine ⟨.some (true, ds), ?_⟩
        rw [List.cons_append, exponentPart, if_pos he]
        simp [exponentSign, digits_append h hs.digits, Except.map]

theorem IsExponent.eq_nil_or_cons {t : Text} (h : IsExponent t) :
    t = [] ∨ ∃ e ds, (e = 'e' ∨ e = 'E') ∧ t = e :: ds := by
  cases h with
  | none => exact .inl rfl
  | unsigned he _ => exact .inr ⟨_, _, he, rfl⟩
  | signed he _ _ => exact .inr ⟨_, _, he, rfl⟩

/-- An exponent, and what follows it, ends the digits in front of it. -/
theorem endsDigits_append {t : Text} (ht : IsExponent t) (hs : EndsNumber s) :
    EndsDigits (t ++ s) ∧ (t ++ s).head? ≠ some '.' := by
  obtain rfl | ⟨e, ds, he, rfl⟩ := ht.eq_nil_or_cons
  · exact ⟨hs.digits, hs.point⟩
  · have hletter : isDigit e = false ∧ e ≠ '.' := by
      rcases he with rfl | rfl <;> decide
    refine ⟨fun c hc => ?_, ?_⟩
    · obtain rfl := Option.some.inj hc
      exact hletter.1
    · simpa using hletter.2

theorem passes_readNumeral (negative : Bool) {t : Text} (ht : IsMagnitude t) (hs : EndsNumber s) :
    Passes (readNumeral early negative) t s := by
  cases ht with
  | @mk whole fraction exponent hwhole hfraction hexponent =>
      obtain ⟨hdigits, hpoint⟩ := endsDigits_append hexponent hs
      have hbehind : EndsDigits (fraction ++ exponent ++ s) := by
        cases hfraction with
        | none => exact hdigits
        | some h =>
            intro c hc
            obtain rfl := Option.some.inj hc
            decide
      refine (passes_wholePart hwhole hbehind).bind fun whole => ?_
      refine (passes_fractionPart hfraction hdigits hpoint).bind fun fraction => ?_
      have hlast : Passes (exponentPart early) exponent ([] ++ s) :=
        passes_exponentPart hexponent hs
      have hall := hlast.bind fun e => passes_pure (⟨negative, whole, fraction, e⟩ : Numeral) s
      rwa [List.append_nil] at hall

end Numbers

end Declarator.Json
