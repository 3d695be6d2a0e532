import Declarator.Json.Grammar
import Declarator.Json.Typed
import Mathlib.Data.List.Forall2

/-!
# Written forms are read

A reader works from the left and stops behind the value, so what it reads a text as does not depend
on what follows that text. With this in the statement, readers that follow one another read texts
that follow one another.

* `Reads`: a reader reads a text as a value, whatever follows. `Reads.bind`: one after another.
* `Answers`: the same with a value or a problem.
* `SkipsPadding`: a reader passes over the blanks in front of a value.
* `stringBody_spelledChar`, `reads_readString`: strings.
* `ReadsItems`, `reads_readList`: lists.
* `Gathers`, `answers_readMembers`, `answers_readRecord`: records in the form of an object.
* `reads_placed_first`, `reads_placed_further`, `reads_readRecord_places`: records in the form of an
  array.
* `decode_eq_ok`, `decode_padded`: whole texts.
-/

namespace Declarator.Json

variable {α β σ : Type}

/-! ### Readers one after another -/

/-- The reader takes `t` for `v`, whatever follows. -/
def Reads (r : Reader α) (t : Text) (v : α) : Prop :=
  ∀ rest, r (t ++ rest) = .ok (v, rest)

theorem bind_of_ok {r : Reader α} {f : α → Reader β} {s mid : Text} {v : α}
    (h : r s = .ok (v, mid)) : (r >>= f) s = f v mid := by
  change (r s).bind (fun p => f p.1 p.2) = _
  rw [h]
  rfl

namespace Reads

variable {r : Reader α} {s t : Text} {v : α}

theorem pure (v : α) : Reads (pure v) [] v := by
  intro rest
  rfl

theorem bind {f : α → Reader β} {w : β} (h : Reads r s v) (hf : Reads (f v) t w) :
    Reads (r >>= f) (s ++ t) w := by
  intro rest
  rw [List.append_assoc, bind_of_ok (h _), hf]

/-- What follows takes no text. -/
theorem bind_nil {f : α → Reader β} {w : β} (h : Reads r t v) (hf : Reads (f v) [] w) :
    Reads (r >>= f) t w := by
  have := h.bind hf
  rwa [List.append_nil] at this

end Reads

/-- The reader answers `t` with a value or a problem, whatever follows. -/
def Answers (r : Reader α) (t : Text) (x : Except Problem α) : Prop :=
  ∀ rest, r (t ++ rest) = x.map fun v => (v, rest)

theorem answers_ok {r : Reader α} {t : Text} {v : α} : Answers r t (.ok v) ↔ Reads r t v :=
  Iff.rfl

theorem answers_throw (p : Problem) (t : Text) : Answers (throw p : Reader α) t (.error p) := by
  intro rest
  rfl

namespace Answers

variable {r : Reader α} {f : α → Reader β} {t : Text}

/-- What follows takes no text. -/
theorem bind_ok {v : α} {x : Except Problem β} (h : Reads r t v) (hf : Answers (f v) [] x) :
    Answers (r >>= f) t x := by
  intro rest
  rw [bind_of_ok (h rest)]
  exact hf rest

/-- What follows a problem is not looked at. -/
theorem bind_error {p : Problem} (h : Answers r t (.error p)) :
    Answers (r >>= f) t (.error p) := by
  intro rest
  change (r (t ++ rest)).bind (fun p => f p.1 p.2) = _
  rw [h]
  rfl

end Answers

/-! ### Padding -/

theorem skipBlanks_append {gap : Text} (hgap : IsPadding gap) (s : Text) :
    skipBlanks (gap ++ s) = skipBlanks s :=
  List.dropWhile_append_of_pos hgap

theorem skipBlanks_cons {c : Char} (hc : isBlank c = false) (s : Text) :
    skipBlanks (c :: s) = c :: s := by
  simp [skipBlanks, hc]

/-- Blanks in front of a value change nothing. -/
def SkipsPadding (r : Reader α) : Prop :=
  ∀ ⦃gap⦄, IsPadding gap → ∀ s, r (gap ++ s) = r s

theorem SkipsPadding.reads {r : Reader α} (hr : SkipsPadding r) {t : Text} {v : α}
    (h : Reads r t v) {gap : Text} (hgap : IsPadding gap) : Reads r (gap ++ t) v := by
  intro rest
  rw [List.append_assoc, hr hgap, h]

theorem skipsPadding_mark (c : Char) : SkipsPadding (mark c) := by
  intro gap hgap s
  simp only [mark, skipBlanks_append hgap]

theorem skipsPadding_readStringOr (problem : Text → Problem) :
    SkipsPadding (readStringOr problem) := by
  intro gap hgap s
  simp only [readStringOr, skipBlanks_append hgap]

theorem skipsPadding_readString : SkipsPadding readString :=
  skipsPadding_readStringOr _

theorem skipsPadding_readKey : SkipsPadding readKey :=
  skipsPadding_readStringOr _

theorem skipsPadding_readNull : SkipsPadding readNull := by
  intro gap hgap s
  simp only [readNull, skipBlanks_append hgap]

theorem skipsPadding_readOptional (item : Reader α) : SkipsPadding (readOptional item) := by
  intro gap hgap s
  simp only [readOptional, skipBlanks_append hgap]

theorem skipsPadding_readList (item : Reader α) (hi : Shrinks item) :
    SkipsPadding (readList item hi) := by
  intro gap hgap s
  simp only [readList, skipBlanks_append hgap]

theorem reads_mark {c : Char} (hc : isBlank c = false) : Reads (mark c) [c] () := by
  intro rest
  simp [mark, skipBlanks_cons hc]

/-- A character and the blanks in front of it. -/
theorem reads_mark_padded {c : Char} (hc : isBlank c = false) {gap : Text} (hgap : IsPadding gap) :
    Reads (mark c) (gap ++ [c]) () :=
  (skipsPadding_mark c).reads (reads_mark hc) hgap

theorem reads_literal (letters : Text) : Reads (literal letters) letters () := by
  intro rest
  induction letters with
  | nil => rfl
  | cons a letters ih => simpa [literal] using ih

/-! ### Strings -/

theorem reads_hexUnit {n : Nat} {digits : Text} (h : SpelledUnit n digits) :
    Reads hexUnit digits n := by
  intro rest
  cases h with
  | mk ha hb hc hd => simp [hexUnit, ha, hb, hc, hd]

theorem isLowSurrogate_eq_false {n : Nat} (h : n < 0xDC00 ∨ 0xDFFF < n) :
    isLowSurrogate n = false := by
  simp only [isLowSurrogate, Bool.and_eq_false_iff, decide_eq_false_iff_not]
  omega

theorem isHighSurrogate_eq_false {n : Nat} (h : n < 0xD800 ∨ 0xDBFF < n) :
    isHighSurrogate n = false := by
  simp only [isHighSurrogate, Bool.and_eq_false_iff, decide_eq_false_iff_not]
  omega

/-- A character is no surrogate, so four digits that give it stand alone. -/
theorem reads_unicodeEscape_unit {c : Char} {digits : Text} (h : SpelledUnit c.toNat digits) :
    Reads unicodeEscape digits c := by
  have hvalid : c.toNat < 0xD800 ∨ 0xDFFF < c.toNat ∧ c.toNat < 0x110000 := c.valid
  refine (reads_hexUnit h).bind_nil ?_
  rw [isLowSurrogate_eq_false (by omega), isHighSurrogate_eq_false (by omega)]
  intro rest
  simp only [Bool.false_eq_true, if_false, Char.ofNat_toNat]
  rfl

theorem reads_lowSurrogate {j : Nat} {low : Text} (hj : j < 0x400)
    (h : SpelledUnit (0xDC00 + j) low) :
    Reads lowSurrogate ('\\' :: 'u' :: low) (0xDC00 + j) := by
  have hlow : isLowSurrogate (0xDC00 + j) = true := by
    simp only [isLowSurrogate, Bool.and_eq_true, decide_eq_true_eq]
    omega
  have hunit : Reads (do
      let n ← hexUnit
      if isLowSurrogate n then return n else throw .malformed) low (0xDC00 + j) := by
    refine (reads_hexUnit h).bind_nil ?_
    rw [if_pos hlow]
    exact .pure _
  exact (reads_literal ['\\']).bind ((reads_literal ['u']).bind hunit)

theorem reads_unicodeEscape_pair {c : Char} {i j : Nat} {high low : Text} (hi : i < 0x400)
    (hj : j < 0x400) (hhigh : SpelledUnit (0xD800 + i) high) (hlow : SpelledUnit (0xDC00 + j) low)
    (hc : c.toNat = i * 0x400 + j + 0x10000) :
    Reads unicodeEscape (high ++ '\\' :: 'u' :: low) c := by
  have hhighUnit : isHighSurrogate (0xD800 + i) = true := by
    simp only [isHighSurrogate, Bool.and_eq_true, decide_eq_true_eq]
    omega
  have hcode : (0xD800 + i - 0xD800) * 0x400 + (0xDC00 + j - 0xDC00) + 0x10000 = c.toNat := by
    omega
  refine (reads_hexUnit hhigh).bind ?_
  rw [isLowSurrogate_eq_false (by omega), if_neg (by simp), if_pos hhighUnit]
  refine (reads_lowSurrogate hj hlow).bind_nil ?_
  rw [hcode, Char.ofNat_toNat]
  exact .pure c

theorem reads_escaped_short {wanted : Bool} {c letter : Char} (h : shortEscape? letter = some c) :
    Reads (escaped wanted) [letter] c := by
  intro rest
  simp [escaped, h]

theorem reads_escaped_unicode {c : Char} {s : Text} (h : Reads unicodeEscape s c) :
    Reads (escaped true) ('u' :: s) c := by
  intro rest
  have hshort : shortEscape? 'u' = none := by decide
  simp [escaped, hshort, h rest]

theorem stringBody_quote (wanted : Bool) (rest : Text) :
    stringBody wanted ('"' :: rest) = .ok ([], rest) := by
  rw [stringBody]
  rfl

section Bodies

variable {wanted : Bool}

theorem stringBody_literal {c : Char} (hquote : c ≠ '"') (hslash : c ≠ '\\')
    (hcontrol : 0x20 ≤ c.toNat) (s : Text) :
    stringBody wanted (c :: s) = (stringBody wanted s).map fun p => (c :: p.1, p.2) := by
  have hnot : ¬ c.toNat < 0x20 := Nat.not_lt_of_le hcontrol
  rw [stringBody, if_neg hquote, if_neg hslash, if_neg hnot]

theorem stringBody_escaped {s rest : Text} {c : Char} (h : escaped wanted s = .ok (c, rest)) :
    stringBody wanted ('\\' :: s) = (stringBody wanted rest).map fun p => (c :: p.1, p.2) := by
  rw [stringBody, if_neg (by decide), if_pos rfl]
  split
  · next p he =>
      rw [h] at he
      cases he
  · next d mid he =>
      rw [h] at he
      cases he
      rfl

end Bodies

/-- **Every spelling of a character** is read as that character. -/
theorem stringBody_spelledChar {c : Char} {s : Text} (h : SpelledChar c s) (rest : Text) :
    stringBody true (s ++ rest) = (stringBody true rest).map fun p => (c :: p.1, p.2) := by
  cases h with
  | literal hquote hslash hcontrol => exact stringBody_literal hquote hslash hcontrol rest
  | short h => exact stringBody_escaped (reads_escaped_short h rest)
  | unit h => exact stringBody_escaped (reads_escaped_unicode (reads_unicodeEscape_unit h) rest)
  | pair hi hj hhigh hlow hc =>
      exact stringBody_escaped
        (reads_escaped_unicode (reads_unicodeEscape_pair hi hj hhigh hlow hc) rest)

theorem stringBody_spelledChars {t s : Text} (h : SpelledChars t s) (rest : Text) :
    stringBody true (s ++ '"' :: rest) = .ok (t, rest) := by
  induction h with
  | nil => exact stringBody_quote true rest
  | cons hc _ ih =>
      rw [List.append_assoc, stringBody_spelledChar hc, ih]
      rfl

theorem reads_readStringOr (problem : Text → Problem) {t s : Text} (h : SpelledString t s) :
    Reads (readStringOr problem) s t := by
  intro rest
  cases h with
  | mk h =>
      rw [List.append_assoc, List.cons_append, readStringOr, skipBlanks_cons (by decide)]
      exact stringBody_spelledChars h rest

theorem reads_readString {t s : Text} (h : SpelledString t s) : Reads readString s t :=
  reads_readStringOr _ h

theorem reads_readKey {t s : Text} (h : SpelledString t s) : Reads readKey s t :=
  reads_readStringOr _ h

/-! ### Lists -/

/-- The text goes on with something else than a blank or a closing bracket. -/
def Opens (closing : Char) (t : Text) : Prop :=
  ∃ c s, t = c :: s ∧ isBlank c = false ∧ c ≠ closing

section Lists

variable {item : Reader α} {hi : Shrinks item} {gap : Text}

theorem element_close (hgap : IsPadding gap) (first : Bool) (rest : Text) :
    element item first (gap ++ ']' :: rest) = .ok (none, ']' :: rest) := by
  rw [element, skipBlanks_append hgap, skipBlanks_cons (by decide)]
  rfl

theorem reads_element_first {t : Text} {v : α} (hgap : IsPadding gap) (ht : Opens ']' t)
    (h : Reads item t v) : Reads (element item true) (gap ++ t) (some v) := by
  intro rest
  have hv := h rest
  obtain ⟨c, s, rfl, hblank, hclose⟩ := ht
  have hskip : skipBlanks (gap ++ c :: s ++ rest) = c :: s ++ rest := by
    rw [List.append_assoc, skipBlanks_append hgap, List.cons_append, skipBlanks_cons hblank]
  rw [element, hskip, List.cons_append]
  rw [List.cons_append] at hv
  simp only [if_neg hclose, if_true, hv]
  rfl

theorem reads_element_further {before t : Text} {v : α} (hbefore : IsPadding before)
    (hgap : IsPadding gap) (ht : Opens ']' t) (h : Reads item t v) :
    Reads (element item false) (before ++ ',' :: gap ++ t) (some v) := by
  intro rest
  have hv := h rest
  obtain ⟨c, s, rfl, hblank, hclose⟩ := ht
  rw [List.cons_append] at hv
  have hskip : skipBlanks (before ++ ',' :: gap ++ c :: s ++ rest) =
      ',' :: (gap ++ c :: (s ++ rest)) := by
    rw [List.append_assoc, List.append_assoc, skipBlanks_append hbefore, List.cons_append,
      skipBlanks_cons (by decide), List.cons_append]
  have hgapSkip : skipBlanks (gap ++ c :: (s ++ rest)) = c :: (s ++ rest) := by
    rw [skipBlanks_append hgap, skipBlanks_cons hblank]
  rw [element, hskip]
  simp [hgapSkip, hclose, hv, Except.map]

theorem elements_eq (first : Bool) (s : Text) :
    elements item hi first s =
      match element item first s with
      | .error p => .error p
      | .ok (none, rest) => .ok ([], rest)
      | .ok (some v, rest) => (elements item hi false rest).map fun p => (v :: p.1, p.2) := by
  rw [elements]
  split
  · next he => rw [he]
  · next he => rw [he]
  · next he => rw [he]

theorem elements_of_none {first : Bool} {s rest : Text}
    (h : element item first s = .ok (none, rest)) :
    elements item hi first s = .ok ([], rest) := by
  rw [elements_eq, h]

theorem elements_of_some {first : Bool} {s : Text} {v : α}
    (h : Reads (element item first) s (some v)) (rest : Text) :
    elements item hi first (s ++ rest) =
      (elements item hi false rest).map fun p => (v :: p.1, p.2) := by
  rw [elements_eq, h]

/-- Written forms of elements, and the values that they are read as. -/
def ReadsItems (item : Reader α) : List Text → List α → Prop :=
  List.Forall₂ fun t v => Opens ']' t ∧ Reads item t v

theorem elements_further {parts : List Text} {vs : List α} {inner : Text}
    (hparts : ReadsItems item parts vs) (hinner : ListedFurther parts inner) (rest : Text) :
    elements item hi false (inner ++ ']' :: rest) = .ok (vs, ']' :: rest) := by
  induction hinner generalizing vs with
  | nil hgap =>
      cases hparts
      exact elements_of_none (element_close hgap false rest)
  | cons hbefore hgap _ ih =>
      cases hparts with
      | cons h hs =>
          have hpart := reads_element_further hbefore hgap h.1 h.2
          rw [List.append_assoc, elements_of_some hpart, ih hs]
          rfl

theorem elements_listed {parts : List Text} {vs : List α} {inner : Text}
    (hparts : ReadsItems item parts vs) (hinner : Listed parts inner) (rest : Text) :
    elements item hi true (inner ++ ']' :: rest) = .ok (vs, ']' :: rest) := by
  cases hinner with
  | nil hgap =>
      cases hparts
      exact elements_of_none (element_close hgap true rest)
  | cons hgap h =>
      cases hparts with
      | cons hpart hparts =>
          rw [List.append_assoc, elements_of_some (reads_element_first hgap hpart.1 hpart.2),
            elements_further hparts h]
          rfl

theorem reads_readList {parts : List Text} {vs : List α} {inner : Text}
    (hparts : ReadsItems item parts vs) (hinner : Listed parts inner) :
    Reads (readList item hi) ('[' :: inner ++ [']']) vs := by
  have helements : Reads (do
      let items ← fun s => elements item hi true s
      mark ']'
      return items : Reader (List α)) (inner ++ [']']) vs := by
    intro rest
    rw [List.append_assoc, List.singleton_append, bind_of_ok (elements_listed hparts hinner rest)]
    exact (reads_mark (by decide)).bind_nil (.pure vs) rest
  intro rest
  rw [List.cons_append, List.cons_append, readList, skipBlanks_cons (by decide)]
  exact helements rest

end Lists

/-! ### Records -/

/-- The value of a field, behind the colon. -/
theorem reads_once {item : Reader α} {t before gap : Text} {v : α} (name : Text)
    (hskips : SkipsPadding item) (h : Reads item t v) (hbefore : IsPadding before)
    (hgap : IsPadding gap) : Reads (once name none item) (before ++ ':' :: (gap ++ t)) v := by
  have hcolon : Reads colon (before ++ [':']) () :=
    reads_mark_padded (by decide) hbefore
  have hboth : Reads (do colon; item) (before ++ [':'] ++ (gap ++ t)) v :=
    hcolon.bind (hskips.reads h hgap)
  rw [List.append_assoc, List.singleton_append] at hboth
  exact hboth

/-- The value of a field that has occurred before is not looked at. -/
theorem answers_once_again {earlier : Option α} (name : Text) (item : Reader α)
    (h : earlier.isSome = true) (t : Text) :
    Answers (once name earlier item) t (.error (.data (.duplicateField name))) := by
  rw [once, if_pos h]
  exact (answers_throw _ t).bind_error

/-- What follows a value inside brackets. A number ends there too. -/
def Stops (rest : Text) : Prop :=
  ∀ c, rest.head? = some c → isBlank c = true ∨ c = ',' ∨ c = ']' ∨ c = '}'

theorem stops_cons {c : Char} (hc : isBlank c = true ∨ c = ',' ∨ c = ']' ∨ c = '}') (s : Text) :
    Stops (c :: s) := by
  intro d hd
  obtain rfl := Option.some.inj hd
  exact hc

theorem IsPadding.stops_append {gap s : Text} (hgap : IsPadding gap) (hs : Stops s) :
    Stops (gap ++ s) := by
  cases gap with
  | nil => exact hs
  | cons c gap => exact stops_cons (.inl (hgap c List.mem_cons_self)) _

theorem ListedFurther.stops {parts : List Text} {inner : Text} (h : ListedFurther parts inner)
    {closing : Char} (hclosing : closing = ']' ∨ closing = '}') (rest : Text) :
    Stops (inner ++ closing :: rest) := by
  cases h with
  | nil hgap => exact hgap.stops_append (stops_cons (.inr (.inr hclosing)) rest)
  | cons hbefore hgap h =>
      simp only [List.append_assoc, List.cons_append]
      exact hbefore.stops_append (stops_cons (.inr (.inl rfl)) _)

/-- `Gathers visit a parts x`: handed one member after another, `visit` gets from `a` to `x`, or to
a problem, behind which nothing is looked at. A member that is taken ends where it must because
something follows it. -/
inductive Gathers (visit : σ → Text → Reader σ) : σ → List Text → Except Problem σ → Prop
  | nil (a : σ) : Gathers visit a [] (.ok a)
  | stop {a : σ} {key keyText tail : Text} {p : Problem} (parts : List Text)
      (hkey : SpelledString key keyText) (h : Answers (visit a key) tail (.error p)) :
      Gathers visit a ((keyText ++ tail) :: parts) (.error p)
  | cons {a b : σ} {x : Except Problem σ} {key keyText tail : Text} {parts : List Text}
      (hkey : SpelledString key keyText)
      (h : ∀ rest, Stops rest → visit a key (tail ++ rest) = .ok (b, rest))
      (hs : Gathers visit b parts x) : Gathers visit a ((keyText ++ tail) :: parts) x

section Members

variable {visit : σ → Text → Reader σ} {hv : ∀ (soFar : σ) (key : Text), Keeps (visit soFar key)}
  {a b : σ} {x : Except Problem σ} {gap key keyText : Text}

theorem reads_nextKey_close (hgap : IsPadding gap) (first : Bool) :
    Reads (nextKey first) (gap ++ ['}']) none := by
  intro rest
  rw [List.append_assoc, nextKey, skipBlanks_append hgap, List.singleton_append,
    skipBlanks_cons (by decide)]
  rfl

theorem reads_nextKey_first (hgap : IsPadding gap) (hkey : SpelledString key keyText) :
    Reads (nextKey true) (gap ++ keyText) (some key) := by
  intro rest
  have h := reads_readKey hkey rest
  cases hkey with
  | mk hkey =>
      rw [List.append_assoc, nextKey, skipBlanks_append hgap]
      simp only [List.cons_append] at h ⊢
      rw [skipBlanks_cons (by decide)]
      simp only [h]
      rfl

theorem reads_nextKey_further {before : Text} (hbefore : IsPadding before) (hgap : IsPadding gap)
    (hkey : SpelledString key keyText) :
    Reads (nextKey false) (before ++ ',' :: gap ++ keyText) (some key) := by
  intro rest
  have h : readKey (gap ++ (keyText ++ rest)) = .ok (key, rest) := by
    rw [skipsPadding_readKey hgap, reads_readKey hkey]
  rw [List.append_assoc, List.append_assoc, nextKey, skipBlanks_append hbefore, List.cons_append,
    skipBlanks_cons (by decide)]
  simp [h, Except.map]

theorem readMembers_eq (first : Bool) (a : σ) (s : Text) :
    readMembers visit hv first a s =
      match nextKey first s with
      | .error p => .error p
      | .ok (none, rest) => .ok (a, rest)
      | .ok (some key, rest) =>
          match visit a key rest with
          | .error p => .error p
          | .ok (more, rest) => readMembers visit hv false more rest := by
  rw [readMembers]
  split
  · next he => rw [he]
  · next he => rw [he]
  · next he =>
      rw [he]
      split
      · next hr => simp only [hr]
      · next hr => simp only [hr]

theorem readMembers_of_none {first : Bool} {s : Text} (h : Reads (nextKey first) s none)
    (rest : Text) : readMembers visit hv first a (s ++ rest) = .ok (a, rest) := by
  rw [readMembers_eq, h]

theorem readMembers_of_error {first : Bool} {s t : Text} {p : Problem}
    (h : Reads (nextKey first) s (some key)) (hvisit : visit a key t = .error p) :
    readMembers visit hv first a (s ++ t) = .error p := by
  rw [readMembers_eq, h]
  simp only [hvisit]

theorem readMembers_of_some {first : Bool} {s t rest : Text}
    (h : Reads (nextKey first) s (some key)) (hvisit : visit a key t = .ok (b, rest)) :
    readMembers visit hv first a (s ++ t) = readMembers visit hv false b rest := by
  rw [readMembers_eq, h]
  simp only [hvisit]

theorem answers_readMembers_further {parts : List Text} {inner : Text}
    (hparts : Gathers visit a parts x) (hinner : ListedFurther parts inner) :
    Answers (readMembers visit hv false a) (inner ++ ['}']) x := by
  intro rest
  induction hinner generalizing a with
  | nil hgap =>
      cases hparts
      exact readMembers_of_none (reads_nextKey_close hgap false) rest
  | @cons _ before gap _ more hbefore hgap hmore ih =>
      cases hparts with
      | @stop _ _ keyText tail _ _ hkey h =>
          have htext : before ++ ',' :: gap ++ (keyText ++ tail) ++ more ++ ['}'] ++ rest =
              before ++ ',' :: gap ++ keyText ++ (tail ++ (more ++ ['}'] ++ rest)) := by simp
          rw [htext, readMembers_of_error (reads_nextKey_further hbefore hgap hkey) (h _)]
          rfl
      | @cons _ _ _ _ keyText tail _ hkey h hs =>
          have htext : before ++ ',' :: gap ++ (keyText ++ tail) ++ more ++ ['}'] ++ rest =
              before ++ ',' :: gap ++ keyText ++ (tail ++ (more ++ '}' :: rest)) := by simp
          have hstops := hmore.stops (.inr rfl) rest
          rw [htext, readMembers_of_some (reads_nextKey_further hbefore hgap hkey) (h _ hstops)]
          simpa using ih hs

/-- **The members of an object** are read as far as they are gathered. -/
theorem answers_readMembers {parts : List Text} {inner : Text} (hparts : Gathers visit a parts x)
    (hinner : Listed parts inner) : Answers (readMembers visit hv true a) (inner ++ ['}']) x := by
  intro rest
  cases hinner with
  | nil hgap =>
      cases hparts
      exact readMembers_of_none (reads_nextKey_close hgap true) rest
  | @cons _ gap _ more hgap hmore =>
      cases hparts with
      | @stop _ _ keyText tail _ _ hkey h =>
          have htext : gap ++ (keyText ++ tail) ++ more ++ ['}'] ++ rest =
              gap ++ keyText ++ (tail ++ (more ++ ['}'] ++ rest)) := by simp
          rw [htext, readMembers_of_error (reads_nextKey_first hgap hkey) (h _)]
          rfl
      | @cons _ _ _ _ keyText tail _ hkey h hs =>
          have htext : gap ++ (keyText ++ tail) ++ more ++ ['}'] ++ rest =
              gap ++ keyText ++ (tail ++ (more ++ '}' :: rest)) := by simp
          have hstops := hmore.stops (.inr rfl) rest
          rw [htext, readMembers_of_some (reads_nextKey_first hgap hkey) (h _ hstops)]
          simpa using answers_readMembers_further hs hmore rest

/-- A record in the form of an object. -/
theorem answers_readRecord {expected : Text} {fields members : Reader α} {inner : Text}
    {x : Except Problem α} (h : Answers members (inner ++ ['}']) x) :
    Answers (readRecord expected fields members) ('{' :: inner ++ ['}']) x := by
  intro rest
  rw [List.cons_append, List.cons_append, readRecord, skipBlanks_cons (by decide)]
  exact h rest

end Members

section Places

variable {item : Reader α} {t before gap : Text} {v : α} (expected : Text) (fields : Nat)

/-- The first field of a record in the form of an array. -/
theorem reads_placed_first (hgap : IsPadding gap) (ht : Opens ']' t) (h : Reads item t v) :
    Reads (placed item 0 expected fields) (gap ++ t) v :=
  (reads_element_first hgap ht h).bind_nil (.pure v)

theorem reads_placed_further (index : Nat) (hbefore : IsPadding before) (hgap : IsPadding gap)
    (ht : Opens ']' t) (h : Reads item t v) :
    Reads (placed item (index + 1) expected fields) (before ++ ',' :: gap ++ t) v :=
  (reads_element_further hbefore hgap ht h).bind_nil (.pure v)

/-- A record in the form of an array. -/
theorem reads_readRecord_places {places members : Reader α} {inner : Text}
    (h : Reads places inner v) (hgap : IsPadding gap) :
    Reads (readRecord expected places members) ('[' :: (inner ++ gap) ++ [']']) v := by
  have hclose : Reads (mark ']') (gap ++ [']']) () :=
    reads_mark_padded (by decide) hgap
  have hall : Reads (do
      let v ← places
      mark ']'
      return v : Reader α) (inner ++ (gap ++ [']'])) v := h.bind (hclose.bind_nil (.pure v))
  intro rest
  rw [List.cons_append, List.cons_append, readRecord, skipBlanks_cons (by decide)]
  simpa using hall rest

end Places

theorem skipsPadding_readRecord (expected : Text) (fields members : Reader α) :
    SkipsPadding (readRecord expected fields members) := by
  intro gap hgap s
  simp only [readRecord, skipBlanks_append hgap]

/-! ### Whole texts -/

/-- Blanks around a text do not change what it is decoded as. -/
theorem decode_padded {item : Reader α} (hskips : SkipsPadding item) {before t behind : Text}
    {x : Except Problem α} (h : Answers item t x) (hbefore : IsPadding before)
    (hbehind : IsPadding behind) : decode item (before ++ t ++ behind) = x := by
  rw [decode, List.append_assoc, hskips hbefore, h]
  have hrest : skipBlanks behind = [] := by
    rw [← List.append_nil behind, skipBlanks_append hbehind]
    rfl
  cases x with
  | error p => rfl
  | ok v => simp [Except.map, hrest]

theorem decode_eq_ok {item : Reader α} {t : Text} {v : α} (h : Reads item t v) :
    decode item t = .ok v := by
  have hv := h []
  rw [List.append_nil] at hv
  rw [decode, hv]
  rfl

end Declarator.Json
