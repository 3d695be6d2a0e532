import Declarator.Proofs.Signature.Layout
import Mathlib.Data.List.Basic

/-!
# Why a text is refused

A text can have many faults at once, and one of them is reported. Each kind of fault has a place in
an order, is found by looking at one part of the text, and carries the part that is at fault. The
fault that is reported is the first in this order.

* `Fault`, `IsFirstFault`: the faults of a trimmed text, and the one that is reported.
* `parse_eq_error_of_isFirstFault`: a text with a fault is refused with the first.
* `exists_parse_eq_ok`: a text without faults is read.
* `parse_eq_error_iff_isFirstFault`: the two together.
-/

namespace Declarator.Signature

open Parsing Text

/-- The text between the first opening parenthesis and the first closing one behind it, or the end
of the text. -/
def innerText (t : Text) : Text :=
  upTo ')' (beyond '(' t)

/-- A fault of a trimmed text: its place in the order, and what the text is refused with. -/
inductive Fault (t : Text) : Nat → Error → Prop where
  | empty (h : t = []) : Fault t 1 .empty
  | noHeader (h : t.head? = some '(') : Fault t 2 .missingReturnType
  | noOpenParen (h : '(' ∉ t) : Fault t 3 .missingOpenParen
  /-- A piece between separators has less or more than two words, and those before it do not. -/
  | argument {piece : Text} (hblank : ¬ IsGap (innerText t))
      (hfirst : (pieces (innerText t)).find? (fun p => (words p).length != 2) = some piece) :
      Fault t 4 (.malformedArgument (trim piece))
  | noCloseParen (h : ')' ∉ beyond '(' t) : Fault t 5 .missingCloseParen
  | behind (h : beyond ')' (beyond '(' t) ≠ []) :
      Fault t 6 (.trailingInput (beyond ')' (beyond '(' t)))
  | oneWord (h : (words (upTo '(' t)).length = 1) : Fault t 7 .missingReturnType
  | manyWords (h : 4 ≤ (words (upTo '(' t)).length) :
      Fault t 8 (.tooManyHeaderTokens (words (upTo '(' t)).length)
  | modifier {u v w : Text} (h : words (upTo '(' t) = [u, v, w]) (hkeyword : isKeyword u = false) :
      Fault t 9 (.unexpectedModifier u)
  | returnType {ws : List Text} {v w : Text} (h : words (upTo '(' t) = ws ++ [v, w])
      (hkeyword : isKeyword v = true) : Fault t 10 .missingReturnType

/-- The text has no fault before the place `n`. -/
def NoFaultBefore (t : Text) (n : Nat) : Prop :=
  ∀ m, m < n → ∀ e, ¬ Fault t m e

/-- The text has a fault and none before it. -/
def IsFirstFault (t : Text) (e : Error) : Prop :=
  ∃ n, Fault t n e ∧ NoFaultBefore t n

variable {t : Text} {n : Nat} {e : Error}

theorem NoFaultBefore.mono {m : Nat} (h : NoFaultBefore t n) (hmn : m ≤ n) : NoFaultBefore t m :=
  fun k hk => h k (Nat.lt_of_lt_of_le hk hmn)

theorem Fault.exists_isFirstFault (h : Fault t n e) : ∃ e, IsFirstFault t e := by
  induction n using Nat.strongRecOn generalizing e with
  | ind n ih =>
      by_cases hbefore : NoFaultBefore t n
      · exact ⟨e, n, h, hbefore⟩
      · simp only [NoFaultBefore, Classical.not_forall, Classical.not_not] at hbefore
        obtain ⟨m, hm, e', he'⟩ := hbefore
        exact ih m hm he'

/-! ### What a text without a fault is like -/

namespace NoFaultBefore

theorem ne_nil (h : NoFaultBefore t n) (hn : 1 < n) : t ≠ [] :=
  fun he => h 1 hn _ (.empty he)

theorem head?_ne_open (h : NoFaultBefore t n) (hn : 2 < n) : t.head? ≠ some '(' :=
  fun hh => h 2 hn _ (.noHeader hh)

theorem open_mem (h : NoFaultBefore t n) (hn : 3 < n) : '(' ∈ t :=
  Classical.not_not.1 fun ho => h 3 hn _ (.noOpenParen ho)

theorem close_mem (h : NoFaultBefore t n) (hn : 5 < n) : ')' ∈ beyond '(' t :=
  Classical.not_not.1 fun hc => h 5 hn _ (.noCloseParen hc)

theorem beyond_eq_nil (h : NoFaultBefore t n) (hn : 6 < n) : beyond ')' (beyond '(' t) = [] :=
  Classical.not_not.1 fun hb => h 6 hn _ (.behind hb)

theorem length_ne_one (h : NoFaultBefore t n) (hn : 7 < n) : (words (upTo '(' t)).length ≠ 1 :=
  fun hl => h 7 hn _ (.oneWord hl)

theorem length_lt_four (h : NoFaultBefore t n) (hn : 8 < n) : (words (upTo '(' t)).length < 4 :=
  Nat.lt_of_not_le fun hl => h 8 hn _ (.manyWords hl)

theorem isKeyword_modifier (h : NoFaultBefore t n) (hn : 9 < n) {u v w : Text}
    (hw : words (upTo '(' t) = [u, v, w]) : isKeyword u = true :=
  eq_true_of_ne_false fun hk => h 9 hn _ (.modifier hw hk)

theorem isKeyword_returnType (h : NoFaultBefore t n) (hn : 10 < n) {ws : List Text} {v w : Text}
    (hw : words (upTo '(' t) = ws ++ [v, w]) : isKeyword v = false :=
  Bool.eq_false_iff.2 fun hk => h 10 hn _ (.returnType hw hk)

end NoFaultBefore

/-! ### The arguments -/

theorem mapM_entryVerdict_of_find?_eq_some {l : List Text} {piece : Text}
    (h : l.find? (fun p => (words p).length != 2) = some piece) :
    l.mapM entryVerdict = .error (.malformedArgument (trim piece)) := by
  induction l with
  | nil => simp at h
  | cons p l ih =>
      rw [List.mapM_cons, entryVerdict]
      by_cases hp : (words p).length = 2
      · rw [List.find?_cons_of_neg (by simp [hp])] at h
        obtain ⟨type, name, hw⟩ := List.length_eq_two.1 hp
        rw [hw, ih h]
        rfl
      · rw [List.find?_cons_of_pos (by simp [hp]), Option.some.injEq] at h
        subst h
        split
        · rename_i hw
          simp [hw] at hp
        · rfl

theorem exists_mapM_entryVerdict {l : List Text}
    (h : l.find? (fun p => (words p).length != 2) = none) :
    ∃ arguments, l.mapM entryVerdict = .ok arguments := by
  induction l with
  | nil => exact ⟨[], rfl⟩
  | cons p l ih =>
      simp only [List.find?_eq_none, List.forall_mem_cons] at h
      obtain ⟨arguments, harguments⟩ := ih (List.find?_eq_none.2 h.2)
      obtain ⟨type, name, hw⟩ := List.length_eq_two.1 (by simpa using h.1)
      refine ⟨⟨type, name⟩ :: arguments, ?_⟩
      have hp : entryVerdict p = .ok ⟨type, name⟩ := entryVerdict_eq_ok_iff.2 hw
      rw [List.mapM_cons, hp, harguments]
      rfl

theorem argumentsVerdict_of_find?_eq_some {inner piece : Text} (hblank : ¬ IsGap inner)
    (hfirst : (pieces inner).find? (fun p => (words p).length != 2) = some piece) :
    argumentsVerdict inner = .error (.malformedArgument (trim piece)) := by
  rw [argumentsVerdict_of_not_isGap hblank, mapM_entryVerdict_of_find?_eq_some hfirst]

theorem exists_argumentsVerdict (h : NoFaultBefore t 5) :
    ∃ arguments, argumentsVerdict (innerText t) = .ok arguments := by
  by_cases hblank : IsGap (innerText t)
  · exact ⟨[], argumentsVerdict_of_isGap hblank⟩
  · rw [argumentsVerdict_of_not_isGap hblank]
    apply exists_mapM_entryVerdict
    cases hfind : (pieces (innerText t)).find? (fun p => (words p).length != 2) with
    | none => rfl
    | some piece => exact absurd (Fault.argument hblank hfind) (h 4 (by decide) _)

theorem exists_listVerdict (h : NoFaultBefore t 7) :
    ∃ arguments, listVerdict (beyond '(' t) = .ok arguments := by
  obtain ⟨arguments, harguments⟩ := exists_argumentsVerdict (h.mono (by decide))
  refine ⟨arguments, listVerdict_eq_ok_iff.2 ⟨innerText t, ?_, not_mem_upTo ')' _, harguments⟩⟩
  rw [← h.beyond_eq_nil (by decide), innerText, upTo_append_beyond (h.close_mem (by decide))]

/-! ### The header -/

theorem ofWords_of_four_le {ws : List Text} (h : 4 ≤ ws.length) :
    Header.ofWords ws = .error (.tooManyHeaderTokens ws.length) := by
  match ws, h with
  | a :: b :: c :: d :: ws, _ => simp [Header.ofWords]

theorem ofWords_of_not_keyword {u : Text} (hkeyword : isKeyword u = false) (v w : Text) :
    Header.ofWords [u, v, w] = .error (.unexpectedModifier u) := by
  rw [isKeyword, Option.isSome_eq_false_iff, Option.isNone_iff_eq_none] at hkeyword
  simp [Header.ofWords, hkeyword]

/-- A keyword stands where the return type should be, and any modifier before it is one. -/
theorem ofWords_of_keyword {ws : List Text} {v w : Text} (hws : ws.length ≤ 1)
    (hmodifier : ∀ u, ws = [u] → isKeyword u = true) (hkeyword : isKeyword v = true) :
    Header.ofWords (ws ++ [v, w]) = .error .missingReturnType := by
  match ws, hws with
  | [], _ => simp [Header.ofWords, hkeyword]
  | [u], _ =>
      obtain ⟨m, hm⟩ := Option.isSome_iff_exists.1 (hmodifier u rfl)
      simp [Header.ofWords, hm, hkeyword]

theorem words_upTo_ne_nil {text : Text} (h : NoFaultBefore (trim text) 3) :
    words (upTo '(' (trim text)) ≠ [] := by
  obtain ⟨c, s, hcs, hc⟩ := (isTrimmed_trim (h.ne_nil (by decide))).exists_cons
  have hopen : c ≠ '(' := by
    rintro rfl
    exact h.head?_ne_open (by decide) (by rw [hcs, List.head?_cons])
  rw [hcs, upTo_cons hopen, words_cons_bare hc]
  simp

theorem exists_ofWords (text : Text) (h : NoFaultBefore (trim text) 11) :
    ∃ v, Header.ofWords (words (upTo '(' (trim text))) = .ok v := by
  have hne := words_upTo_ne_nil (h.mono (by decide))
  have hone := h.length_ne_one (by decide)
  have hmany := h.length_lt_four (by decide)
  match hw : words (upTo '(' (trim text)) with
  | [] => exact absurd hw hne
  | [_] => simp [hw] at hone
  | [v, w] =>
      have hlast : words (upTo '(' (trim text)) = [] ++ [v, w] := hw
      have hv := h.isKeyword_returnType (by decide) hlast
      exact ⟨⟨none, v, w⟩, ofWords_eq_ok_iff.2 ⟨hv, rfl⟩⟩
  | [u, v, w] =>
      have hlast : words (upTo '(' (trim text)) = [u] ++ [v, w] := hw
      have hv := h.isKeyword_returnType (by decide) hlast
      obtain ⟨m, hm⟩ := Option.isSome_iff_exists.1 (h.isKeyword_modifier (by decide) hw)
      refine ⟨⟨some m, v, w⟩, ofWords_eq_ok_iff.2 ⟨hv, ?_⟩⟩
      rw [Modifier.ofKeyword?_eq_some_iff.1 hm]
      rfl
  | a :: b :: c :: d :: ws =>
      simp only [hw, List.length_cons] at hmany
      omega

/-! ### The first fault -/

/-- Without a fault around the opening parenthesis the two parts of the text are read. -/
theorem parse_of_noFaultBefore {text : Text} (h : NoFaultBefore (trim text) 4) :
    parse text = (do
      let arguments ← listVerdict (beyond '(' (trim text))
      let v ← Header.ofWords (words (upTo '(' (trim text)))
      .ok ⟨v.modifier, v.returnType, v.methodName, arguments⟩) := by
  rw [parse_eq, if_neg (h.ne_nil (by decide)), verdict, if_neg (h.head?_ne_open (by decide)),
    if_neg (not_not_intro (h.open_mem (by decide)))]

theorem parse_of_listVerdict_eq_error {text : Text} (h : NoFaultBefore (trim text) 4)
    (he : listVerdict (beyond '(' (trim text)) = .error e) : parse text = .error e := by
  rw [parse_of_noFaultBefore h, he]
  rfl

theorem parse_of_ofWords_eq_error {text : Text} (h : NoFaultBefore (trim text) 7)
    (he : Header.ofWords (words (upTo '(' (trim text))) = .error e) : parse text = .error e := by
  obtain ⟨arguments, harguments⟩ := exists_listVerdict h
  rw [parse_of_noFaultBefore (h.mono (by decide)), harguments, he]
  rfl

/-- **A text with a fault is refused with the first.** -/
theorem parse_eq_error_of_isFirstFault {text : Text} (h : IsFirstFault (trim text) e) :
    parse text = .error e := by
  obtain ⟨n, hfault, hbefore⟩ := h
  cases hfault with
  | empty h => rw [parse_eq, if_pos h]
  | noHeader h =>
      rw [parse_eq, if_neg (hbefore.ne_nil (by decide)), verdict, if_pos h]
  | noOpenParen h =>
      rw [parse_eq, if_neg (hbefore.ne_nil (by decide)), verdict,
        if_neg (hbefore.head?_ne_open (by decide)), if_pos h]
  | argument hblank hfirst =>
      apply parse_of_listVerdict_eq_error hbefore
      rw [listVerdict, ← innerText, argumentsVerdict_of_find?_eq_some hblank hfirst]
      rfl
  | noCloseParen h =>
      apply parse_of_listVerdict_eq_error (hbefore.mono (by decide))
      obtain ⟨arguments, harguments⟩ := exists_argumentsVerdict hbefore
      rw [innerText, upTo_of_not_mem h] at harguments
      rw [listVerdict_of_not_mem h, harguments]
      rfl
  | behind h =>
      apply parse_of_listVerdict_eq_error (hbefore.mono (by decide))
      obtain ⟨arguments, harguments⟩ := exists_argumentsVerdict (hbefore.mono (by decide))
      have hclose := not_not_intro (hbefore.close_mem (by decide))
      rw [listVerdict, ← innerText, harguments]
      exact (if_neg hclose).trans (if_neg h)
  | oneWord h =>
      apply parse_of_ofWords_eq_error hbefore
      obtain ⟨w, hw⟩ := List.length_eq_one_iff.1 h
      rw [hw]
      rfl
  | manyWords h =>
      exact parse_of_ofWords_eq_error (hbefore.mono (by decide)) (ofWords_of_four_le h)
  | modifier h hkeyword =>
      apply parse_of_ofWords_eq_error (hbefore.mono (by decide))
      rw [h, ofWords_of_not_keyword hkeyword]
  | @returnType ws v w h hkeyword =>
      apply parse_of_ofWords_eq_error (hbefore.mono (by decide))
      have hlength : ws.length ≤ 1 := by
        have hmany := hbefore.length_lt_four (by decide)
        rw [h, List.length_append] at hmany
        simp only [List.length_cons, List.length_nil] at hmany
        omega
      have hmodifier : ∀ u, ws = [u] → isKeyword u = true := by
        rintro u rfl
        exact hbefore.isKeyword_modifier (by decide) h
      rw [h, ofWords_of_keyword hlength hmodifier hkeyword]

/-- **A text without faults is read.** -/
theorem exists_parse_eq_ok {text : Text} (h : ∀ n e, ¬ Fault (trim text) n e) :
    ∃ s, parse text = .ok s := by
  obtain ⟨arguments, harguments⟩ := exists_listVerdict (t := trim text) fun m _ => h m
  obtain ⟨v, hv⟩ := exists_ofWords text fun m _ => h m
  refine ⟨⟨v.modifier, v.returnType, v.methodName, arguments⟩, ?_⟩
  rw [parse_of_noFaultBefore fun m _ => h m, harguments, hv]
  rfl

theorem isFirstFault_of_parse_eq_error {text : Text} (h : parse text = .error e) :
    IsFirstFault (trim text) e := by
  by_cases hnone : ∀ n e, ¬ Fault (trim text) n e
  · obtain ⟨s, hs⟩ := exists_parse_eq_ok hnone
    rw [hs] at h
    cases h
  · simp only [Classical.not_forall, Classical.not_not] at hnone
    obtain ⟨n, e', hfault⟩ := hnone
    obtain ⟨e'', hfirst⟩ := hfault.exists_isFirstFault
    have := parse_eq_error_of_isFirstFault hfirst
    rw [h, Except.error.injEq] at this
    exact this ▸ hfirst

/-- A rule of parsing never shows in what a text is refused with. -/
theorem Fault.ne_generic (h : Fault t n e) (rule : Rule) : e ≠ .generic rule := by
  cases h <;> simp

/-- **Why a text is refused.** It is refused exactly if it has a fault, and then with the first
fault in the order; an error that only names a rule of parsing never surfaces. -/
theorem parse_eq_error_iff_isFirstFault (text : Text) :
    (∀ e, parse text = .error e ↔ IsFirstFault (trim text) e) ∧
      ((∃ e, parse text = .error e) ↔ ∃ n e, Fault (trim text) n e) ∧
      ∀ rule, parse text ≠ .error (.generic rule) := by
  refine ⟨fun e => ⟨isFirstFault_of_parse_eq_error, parse_eq_error_of_isFirstFault⟩, ⟨?_, ?_⟩, ?_⟩
  · rintro ⟨e, h⟩
    obtain ⟨n, hfault, -⟩ := isFirstFault_of_parse_eq_error h
    exact ⟨n, e, hfault⟩
  · rintro ⟨n, e, hfault⟩
    obtain ⟨e', hfirst⟩ := hfault.exists_isFirstFault
    exact ⟨e', parse_eq_error_of_isFirstFault hfirst⟩
  · intro rule h
    obtain ⟨n, hfault, -⟩ := isFirstFault_of_parse_eq_error h
    exact hfault.ne_generic rule rfl

-- Of an entry, a closing parenthesis, a modifier and a return type, the entry comes first.
example : parse "static public f(int a, b".toList = .error (.malformedArgument ['b']) := by
  decide +kernel

end Declarator.Signature
