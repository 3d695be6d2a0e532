import Declarator.Proofs.Json.Number

/-!
# What is appended to a text

A reader that has taken a value, or has found something else than was wanted, has not looked behind
it. So it does the same where more text follows, whatever that is; only a number at the end of the
text must not go on there. Where the text is malformed or ends too early nothing is settled, as its
end may be what is wrong with it.

* `Settled`: a value was taken, or something else than was wanted was found.
* `Persists`: what is settled stays so when a text is appended. `Persists.bind`: readers one after
  another. `persists_front`: a reader that goes by the first character that is not blank.
* `persists_stringBody`, `persists_readNumeral`: strings and numbers.
-/

namespace Declarator.Json

variable {α β : Type} {t : Text}

/-! ### What is settled -/

/-- A value was taken, or something else than was wanted was found. -/
def Settled (x : Except Problem α) : Prop :=
  ∀ p, x = .error p → ∃ cause, p = .data cause

@[simp] theorem settled_ok (v : α) : Settled (.ok v) := by
  intro p h
  cases h

@[simp] theorem settled_error_iff {p : Problem} :
    Settled (.error p : Except Problem α) ↔ ∃ cause, p = .data cause := by
  simp [Settled]

@[simp] theorem settled_map_iff {x : Except Problem α} {f : α → β} :
    Settled (x.map f) ↔ Settled x := by
  cases x with
  | error p => simp [Except.map]
  | ok v => simp [Except.map]

theorem Settled.of_bind {x : Except Problem α} {f : α → Except Problem β}
    (h : Settled (x.bind f)) : Settled x := by
  cases x with
  | error p => simpa [Except.bind] using h
  | ok v => exact settled_ok v

/-- What is settled on a text stays so when `t` is appended: the same value with `t` left behind it,
or the same problem. -/
def Persists (r : Reader α) (t : Text) : Prop :=
  ∀ s, Settled (r s) → r (s ++ t) = (r s).map fun p => (p.1, p.2 ++ t)

theorem persists_pure (v : α) : Persists (pure v : Reader α) t := by
  intro s _
  rfl

theorem persists_error (p : Problem) : Persists (fun _ => .error p : Reader α) t := by
  intro s _
  rfl

namespace Persists

variable {r : Reader α}

theorem append_of_ok (hr : Persists r t) {s rest : Text} {v : α} (h : r s = .ok (v, rest)) :
    r (s ++ t) = .ok (v, rest ++ t) := by
  rw [hr s (by simp [h]), h]
  rfl

theorem append_of_error (hr : Persists r t) {s : Text} {p : Problem} (h : r s = .error p)
    (hp : ∃ cause, p = .data cause) : r (s ++ t) = .error p := by
  rw [hr s (by simpa [h] using hp), h]
  rfl

theorem bind {f : α → Reader β} (hr : Persists r t) (hf : ∀ v, Persists (f v) t) :
    Persists (r >>= f) t := by
  intro s hs
  change Settled ((r s).bind fun p => f p.1 p.2) at hs
  have happend := hr s hs.of_bind
  change (r (s ++ t)).bind _ = ((r s).bind _).map _
  rw [happend]
  cases hrs : r s with
  | error p => rfl
  | ok p =>
      rw [hrs] at hs
      exact hf p.1 p.2 hs

/-- What was taken may be changed. -/
theorem map (hr : Persists r t) (f : α → β) :
    Persists (fun s => (r s).map fun p => (f p.1, p.2)) t := by
  intro s hs
  show (r (s ++ t)).map _ = ((r s).map _).map _
  rw [hr s (settled_map_iff.1 hs)]
  cases r s with
  | error p => rfl
  | ok p => rfl

/-- A character may be put in front of the text. -/
theorem cons (hr : Persists r t) (c : Char) : Persists (fun s => r (c :: s)) t :=
  fun s hs => hr (c :: s) hs

end Persists

theorem persists_ite {p : Prop} [Decidable p] {r r' : Reader α} (h : p → Persists r t)
    (h' : ¬ p → Persists r' t) : Persists (fun s => if p then r s else r' s) t := by
  by_cases hp : p
  · simpa only [if_pos hp] using h hp
  · simpa only [if_neg hp] using h' hp

/-! ### Between values -/

theorem skipBlanks_append_of_cons {s rest : Text} {c : Char} (h : skipBlanks s = c :: rest) :
    skipBlanks (s ++ t) = c :: (rest ++ t) := by
  rw [skipBlanks] at h ⊢
  rw [List.dropWhile_append, h]
  rfl

/-- A reader goes by the first character that is not blank. Without one the text is too short. -/
theorem persists_front {f : Char → Reader α} (hf : ∀ c, Persists (f c) t) :
    Persists (fun s =>
      match skipBlanks s with
      | [] => .error .truncated
      | c :: rest => f c rest) t := by
  intro s hs
  cases hskip : skipBlanks s with
  | nil => simp [hskip] at hs
  | cons c rest =>
      simp only [hskip] at hs
      simp only [skipBlanks_append_of_cons hskip, hskip]
      exact hf c rest hs

theorem persists_literal (letters : Text) : Persists (literal letters) t := by
  induction letters with
  | nil => exact persists_pure ()
  | cons a letters ih =>
      intro s hs
      cases s with
      | nil => simp [literal] at hs
      | cons c s =>
          by_cases hc : c = a
          · simp only [literal, if_pos hc] at hs
            simp only [List.cons_append, literal, if_pos hc]
            exact ih s hs
          · simp [literal, hc] at hs

theorem persists_mark (c : Char) : Persists (mark c) t :=
  persists_front fun _ => persists_ite (fun _ => persists_pure ()) fun _ => persists_error _

/-! ### Strings -/

theorem persists_hexUnit : Persists hexUnit t := by
  intro s hs
  match s with
  | a :: b :: c :: d :: rest =>
      show hexUnit (a :: b :: c :: d :: (rest ++ t)) = _
      simp only [hexUnit]
      split <;> rfl
  | [] | [_] | [_, _] | [_, _, _] =>
      simp only [hexUnit] at hs
      split at hs <;> simp at hs

theorem persists_lowSurrogate : Persists lowSurrogate t := by
  refine (persists_literal _).bind fun _ => (persists_literal _).bind fun _ =>
    persists_hexUnit.bind fun n => ?_
  split
  · exact persists_pure n
  · exact persists_error _

theorem persists_unicodeEscape : Persists unicodeEscape t := by
  refine persists_hexUnit.bind fun n => ?_
  split
  · exact persists_error _
  · split
    · exact persists_lowSurrogate.bind fun _ => persists_pure _
    · exact persists_pure _

theorem persists_anyUnit : Persists anyUnit t :=
  persists_hexUnit.bind fun _ => persists_pure _

theorem persists_escaped (wanted : Bool) : Persists (escaped wanted) t := by
  intro s hs
  cases s with
  | nil => simp [escaped] at hs
  | cons c s =>
      simp only [List.cons_append, escaped] at hs ⊢
      cases hshort : shortEscape? c with
      | some d => rfl
      | none =>
          simp only [hshort] at hs
          by_cases hc : c = 'u'
          · simp only [if_pos hc] at hs ⊢
            cases wanted with
            | true => exact persists_unicodeEscape s hs
            | false => exact persists_anyUnit s hs
          · simp [hc] at hs

theorem stringBody_escaped_error {wanted : Bool} {s : Text} {p : Problem}
    (h : escaped wanted s = .error p) : stringBody wanted ('\\' :: s) = .error p := by
  rw [stringBody, if_neg (by decide), if_pos rfl]
  split
  · next he =>
      rw [h] at he
      exact congrArg _ (Except.error.inj he).symm
  · next he =>
      rw [h] at he
      cases he

theorem persists_stringBody (wanted : Bool) : Persists (fun s => stringBody wanted s) t := by
  intro s
  show Settled (stringBody wanted s) → stringBody wanted (s ++ t) = (stringBody wanted s).map _
  fun_induction stringBody wanted s with
  | case1 => simp
  | case2 rest =>
      intro _
      exact stringBody_quote wanted (rest ++ t)
  | case3 rest p hp =>
      intro hs
      exact stringBody_escaped_error
        ((persists_escaped wanted).append_of_error hp (settled_error_iff.1 hs))
  | case4 rest d mid hd _ ih =>
      intro hs
      rw [List.cons_append, stringBody_escaped ((persists_escaped wanted).append_of_ok hd),
        ih (settled_map_iff.1 hs)]
      cases stringBody wanted mid <;> rfl
  | case5 => simp
  | case6 c rest hquote hslash hcontrol ih =>
      intro hs
      rw [List.cons_append, stringBody_literal hquote hslash (Nat.le_of_not_lt hcontrol),
        ih (settled_map_iff.1 hs)]
      cases stringBody wanted rest <;> rfl

/-! ### Numbers -/

theorem EndsDigits.append {s : Text} (hs : EndsDigits s) (ht : EndsDigits t) :
    EndsDigits (s ++ t) := by
  cases s with
  | nil => exact ht
  | cons c s => exact hs

theorem endsDigits_dropWhile (s : Text) : EndsDigits (s.dropWhile isDigit) := by
  intro c hc
  have hnot := List.head?_dropWhile_not isDigit s
  rw [hc] at hnot
  exact hnot

/-- The sign of an exponent is its first character. -/
theorem exponentSign_append {s : Text} (hne : s ≠ []) (t : Text) :
    exponentSign (s ++ t) = ((exponentSign s).1, (exponentSign s).2 ++ t) := by
  obtain ⟨c, s, rfl⟩ := List.exists_cons_of_ne_nil hne
  by_cases hplus : c = '+'
  · subst hplus
    rfl
  by_cases hminus : c = '-'
  · subst hminus
    rfl
  simp [exponentSign, hplus, hminus]

section Numbers

variable {early : Problem}

-- A text may end before a number does, and that settles nothing.
variable (hearly : ∀ cause, early ≠ .data cause)

include hearly

theorem not_settled_digits {s : Text} (h : s.takeWhile isDigit = []) :
    ¬ Settled (digits early s) := by
  simp only [digits, h, settled_error_iff]
  rintro ⟨cause, hcause⟩
  split at hcause
  · exact hearly cause hcause
  · cases hcause

theorem persists_digits (ht : EndsDigits t) : Persists (digits early) t := by
  intro s hs
  have hdigits : IsDigits (s.takeWhile isDigit) :=
    ⟨fun hne => not_settled_digits hearly hne hs, List.all_eq_true.1 List.all_takeWhile⟩
  have hfront (u : Text) (hu : EndsDigits u) :
      digits early (s ++ u) = .ok (s.takeWhile isDigit, s.dropWhile isDigit ++ u) := by
    rw [← digits_append hdigits ((endsDigits_dropWhile s).append hu), ← List.append_assoc,
      List.takeWhile_append_dropWhile]
  have hnone := hfront [] endsDigits_nil
  rw [List.append_nil, List.append_nil] at hnone
  rw [hfront t ht, hnone]
  rfl

theorem persists_wholePart (ht : EndsDigits t) : Persists (wholePart early) t := by
  intro s hs
  cases s with
  | nil => exact absurd hs (not_settled_digits (s := []) hearly rfl)
  | cons c rest =>
      by_cases hc : c = '0'
      · subst hc
        by_cases hrest : EndsDigits rest
        · rw [List.cons_append, wholePart_zero hrest, wholePart_zero (hrest.append ht)]
          rfl
        · have hdigit : rest.head?.any isDigit = true := by
            rwa [endsDigits_iff, Bool.not_eq_false] at hrest
          simp [wholePart, hdigit] at hs
      · rw [wholePart_of_ne_zero hc] at hs
        rw [List.cons_append, wholePart_of_ne_zero hc, wholePart_of_ne_zero hc]
        exact persists_digits hearly ht (c :: rest) hs

theorem persists_fractionPart (ht : EndsNumber t) : Persists (fractionPart early) t := by
  intro s hs
  cases s with
  | nil =>
      rw [List.nil_append, fractionPart_of_head? ht.point]
      rfl
  | cons c rest =>
      by_cases hc : c = '.'
      · subst hc
        exact (persists_digits hearly ht.digits).map some rest hs
      · have hhead (u : Text) : (c :: u).head? ≠ some '.' := by simpa using hc
        rw [List.cons_append, fractionPart_of_head? (hhead _), fractionPart_of_head? (hhead _)]
        rfl

theorem persists_exponentPart (ht : EndsNumber t) : Persists (exponentPart early) t := by
  intro s hs
  cases s with
  | nil =>
      rw [List.nil_append, exponentPart_of_head? ht.exponent]
      rfl
  | cons c rest =>
      by_cases hc : c = 'e' ∨ c = 'E'
      · rw [exponentPart, if_pos hc, settled_map_iff] at hs
        have hne : rest ≠ [] := by
          rintro rfl
          exact not_settled_digits hearly rfl hs
        rw [List.cons_append, exponentPart, exponentPart, if_pos hc, if_pos hc,
          exponentSign_append hne, persists_digits hearly ht.digits _ hs]
        cases digits early (exponentSign rest).2 <;> rfl
      · have hhead (u : Text) : ∀ e, e = 'e' ∨ e = 'E' → (c :: u).head? ≠ some e := by
          rintro e he heq
          obtain rfl := Option.some.inj heq
          exact hc he
        rw [List.cons_append, exponentPart_of_head? (hhead _), exponentPart_of_head? (hhead _)]
        rfl

theorem persists_readNumeral (ht : EndsNumber t) (negative : Bool) :
    Persists (readNumeral early negative) t :=
  (persists_wholePart hearly ht.digits).bind fun _ =>
    (persists_fractionPart hearly ht).bind fun _ =>
      (persists_exponentPart hearly ht).bind fun _ => persists_pure _

end Numbers

end Declarator.Json
