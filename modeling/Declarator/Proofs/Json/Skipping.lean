import Declarator.Proofs.Json.Number
import Declarator.Proofs.Json.Spelling

/-!
# Well-formed values are passed over

A value that nobody asked for is passed over to its end and no further, however deep it is.

* `stringBody_isBody`: strings. `SpelledString.isString`: a written form of a string is a string.
* `Skips`: a value is passed over inside any brackets. `skips_bracket`: brackets, from what is in
  them.
* `WellFormed.skips`: **well-formed values.** `WellFormed.passes_ignored`: behind a colon.
-/

namespace Declarator.Json

variable {α β : Type}

/-! ### Strings -/

theorem SpelledChar.isBody_append {c : Char} {s t : Text} (h : SpelledChar c s) (ht : IsBody t) :
    IsBody (s ++ t) := by
  cases h with
  | literal hquote hslash hcontrol => exact .literal hquote hslash hcontrol ht
  | short h => exact .short h ht
  | unit h => exact .unit h ht
  | pair _ _ hhigh hlow _ =>
      have hbody := IsBody.unit hhigh (IsBody.unit hlow ht)
      simpa using hbody

/-- A written form of a string is a string. -/
theorem SpelledString.isString {t s : Text} (h : SpelledString t s) : IsString s := by
  cases h with
  | mk h =>
      refine .mk ?_
      induction h with
      | nil => exact .nil
      | cons hc _ ih => exact hc.isBody_append ih

/-- Of an escape only the digits are looked at. -/
theorem reads_escaped_unit {n : Nat} {digits : Text} (h : SpelledUnit n digits) :
    Reads (escaped false) ('u' :: digits) '\uFFFD' := by
  intro rest
  have hshort : shortEscape? 'u' = none := by decide
  have hunit : Reads anyUnit digits '\uFFFD' := (reads_hexUnit h).bind_nil (.pure _)
  simp [escaped, hshort, hunit rest]

/-- A string that is passed over may hold any escapes. -/
theorem stringBody_isBody {t : Text} (h : IsBody t) (rest : Text) :
    ∃ v, stringBody false (t ++ '"' :: rest) = .ok (v, rest) := by
  induction h with
  | nil => exact ⟨[], stringBody_quote false rest⟩
  | @literal c _ hquote hslash hcontrol _ ih =>
      obtain ⟨v, hv⟩ := ih
      refine ⟨c :: v, ?_⟩
      rw [List.cons_append, stringBody_literal hquote hslash hcontrol, hv]
      rfl
  | @short c letter _ h _ ih =>
      obtain ⟨v, hv⟩ := ih
      have hletter (s : Text) : escaped false (letter :: s) = .ok (c, s) := reads_escaped_short h s
      refine ⟨c :: v, ?_⟩
      rw [List.cons_append, List.cons_append, stringBody_escaped (hletter _), hv]
      rfl
  | unit h _ ih =>
      obtain ⟨v, hv⟩ := ih
      refine ⟨'\uFFFD' :: v, ?_⟩
      rw [List.append_assoc, List.cons_append, stringBody_escaped (reads_escaped_unit h _), hv]
      rfl

/-! ### Values -/

/-- What is done behind a value: nothing, if no bracket is open. -/
def onward : Option Spot → Text → Except Problem (Unit × Text)
  | none, s => .ok ((), s)
  | some spot, s => skipFrom spot s

theorem skipFrom_eq (spot : Spot) (s : Text) :
    skipFrom spot s = (skipStep spot s).bind fun p => onward p.1 p.2 := by
  rw [skipFrom]
  split
  · next he => rw [he]; rfl
  · next he => rw [he]; rfl
  · next he => rw [he]; rfl

theorem skipFrom_of_ok {spot : Spot} {next : Option Spot} {s rest : Text}
    (h : skipStep spot s = .ok (next, rest)) : skipFrom spot s = onward next rest := by
  rw [skipFrom_eq, h]
  rfl

theorem skipStep_append {gap : Text} (hgap : IsPadding gap) (spot : Spot) (s : Text) :
    skipStep spot (gap ++ s) = skipStep spot s := by
  simp only [skipStep, skipBlanks_append hgap]

theorem skipFrom_append {gap : Text} (hgap : IsPadding gap) (spot : Spot) (s : Text) :
    skipFrom spot (gap ++ s) = skipFrom spot s := by
  rw [skipFrom_eq, skipFrom_eq, skipStep_append hgap]

/-- A value is passed over, whatever brackets it stands in. -/
def Skips (t : Text) : Prop :=
  ∀ around rest, Stops rest → skipFrom (.due around) (t ++ rest) = onward (behind around) rest

/-! ### Scalars -/

theorem skips_scalar {c : Char} {t : Text} {r : Reader Unit} (hblank : isBlank c = false)
    (hopened : opened? c = none) (hr : skipScalar? c = some r)
    (ht : ∀ rest, Stops rest → Passes r t rest) : Skips (c :: t) := by
  intro around rest hrest
  obtain ⟨v, hv⟩ := ht rest hrest
  refine skipFrom_of_ok ?_
  rw [List.cons_append, skipStep, skipBlanks_cons hblank]
  simp only [hopened, hr, hv]
  rfl

theorem IsString.skips {t : Text} (h : IsString t) : Skips t := by
  cases h with
  | @mk s h =>
      have hbody (rest : Text) : Passes (fun u => stringBody false u) (s ++ ['"']) rest := by
        obtain ⟨v, hv⟩ := stringBody_isBody h rest
        exact ⟨v, by rwa [List.append_assoc]⟩
      exact skips_scalar (by decide) (by decide) rfl fun rest _ => (hbody rest).forget

theorem IsMagnitude.exists_cons {t : Text} (h : IsMagnitude t) :
    ∃ c s, t = c :: s ∧ isDigit c = true := by
  cases h with
  | mk hwhole _ _ =>
      cases hwhole with
      | zero => exact ⟨'0', _, rfl, by decide⟩
      | digits h _ =>
          obtain ⟨hne, hall⟩ := h
          obtain ⟨c, s, rfl⟩ := List.exists_cons_of_ne_nil hne
          exact ⟨c, _, rfl, hall c List.mem_cons_self⟩

theorem not_mem_of_isDigit {c : Char} (hc : isDigit c = true) {t : Text}
    (ht : ∀ d ∈ t, isDigit d = false) : c ∉ t := by
  intro hmem
  rw [ht c hmem] at hc
  cases hc

theorem isBlank_of_isDigit {c : Char} (hc : isDigit c = true) : isBlank c = false := by
  have hnot : c ∉ [' ', '\n', '\t', '\r'] := not_mem_of_isDigit hc (by simp [isDigit])
  simpa [isBlank, and_assoc] using hnot

theorem IsNumber.skips {t : Text} (h : IsNumber t) : Skips t := by
  cases h with
  | @positive t h =>
      obtain ⟨c, s, rfl, hc⟩ := h.exists_cons
      have hnot : c ∉ ['[', '{', 'n', 't', 'f', '-'] := not_mem_of_isDigit hc (by simp [isDigit])
      simp only [List.mem_cons, not_or] at hnot
      obtain ⟨hsquare, hcurly, hn, ht, hf, hminus, -⟩ := hnot
      have hopened : opened? c = none := by
        simp [opened?, hsquare, hcurly]
      have hscalar : skipScalar? c =
          some fun s => (readNumeral .malformed false (c :: s)).map fun p => ((), p.2) := by
        simp [skipScalar?, hn, ht, hf, hminus, hc]
      exact skips_scalar (isBlank_of_isDigit hc) hopened hscalar fun rest hrest =>
        (passes_readNumeral false h hrest.endsNumber).forget
  | @negative t h =>
      exact skips_scalar (by decide) (by decide) rfl fun rest hrest =>
        (passes_readNumeral true h hrest.endsNumber).forget

/-! ### Brackets -/

/-- The character that opens a bracket. -/
def Bracket.opening : Bracket → Char
  | .square => '['
  | .curly => '{'

/-- What stands in front of a value inside a bracket. -/
def IsFront : Bracket → Text → Prop
  | .square => fun t => t = []
  | .curly => IsLabel

/-- The front of an entry is passed over up to the blanks before the value. -/
theorem skipLabel_front {b : Bracket} {gap front : Text} (hgap : IsPadding gap)
    (hfront : IsFront b front) (s : Text) :
    ∃ left, IsPadding left ∧ skipLabel b (gap ++ (front ++ s)) = .ok ((), left ++ s) := by
  cases b with
  | square =>
      obtain rfl : front = [] := hfront
      exact ⟨gap, hgap, rfl⟩
  | curly =>
      cases hfront with
      | @mk keyText before left hkey hbefore hleft =>
          refine ⟨left, hleft, ?_⟩
          cases hkey with
          | @mk key hkey =>
              obtain ⟨v, hv⟩ := stringBody_isBody hkey (before ++ ':' :: (left ++ s))
              have hquote : Reads (mark '"') (gap ++ ['"']) () :=
                reads_mark_padded (by decide) hgap
              have hcolon : Reads colon (before ++ [':']) () :=
                reads_mark_padded (by decide) hbefore
              have htext : gap ++ ('"' :: key ++ ['"'] ++ (before ++ ':' :: left) ++ s) =
                  gap ++ ['"'] ++ (key ++ '"' :: (before ++ ':' :: (left ++ s))) := by simp
              have hend : before ++ ':' :: (left ++ s) = before ++ [':'] ++ (left ++ s) := by simp
              rw [htext, skipLabel, skipKey, bind_of_ok (hquote _), bind_of_ok hv, hend]
              exact hcolon _

section Entries

variable {b : Bracket} {entries : List (Text × Text)} {inner : Text}

theorem skipFrom_further (hfront : ∀ e ∈ entries, IsFront b e.1) (hskips : ∀ e ∈ entries, Skips e.2)
    (hinner : ListedFurther (entries.map fun e => e.1 ++ e.2) inner) (around : List Bracket)
    (rest : Text) :
    skipFrom (.inside b around) (inner ++ b.closing :: rest) = onward (behind around) rest := by
  have hclosing : b.closing = ']' ∨ b.closing = '}' := by cases b <;> decide
  generalize hparts : (entries.map fun e => e.1 ++ e.2) = parts at hinner
  induction hinner generalizing entries with
  | nil hgap =>
      rw [skipFrom_append hgap]
      refine skipFrom_of_ok ?_
      have hblank : isBlank b.closing = false := by cases b <;> decide
      simp [skipStep, skipBlanks_cons hblank]
  | @cons _ before gap _ more hbefore hgap hmore ih =>
      cases entries with
      | nil => cases hparts
      | cons e entries =>
          obtain ⟨rfl, rfl⟩ := List.cons.inj hparts
          obtain ⟨⟨he, hfront⟩, ⟨hvalue, hskips⟩⟩ :=
            And.intro (List.forall_mem_cons.1 hfront) (List.forall_mem_cons.1 hskips)
          obtain ⟨left, hleft, hlabel⟩ :=
            skipLabel_front hgap he (e.2 ++ (more ++ b.closing :: rest))
          have htext : before ++ ',' :: gap ++ (e.1 ++ e.2) ++ more ++ b.closing :: rest =
              before ++ ',' :: (gap ++ (e.1 ++ (e.2 ++ (more ++ b.closing :: rest)))) := by simp
          have hcomma : ',' ≠ b.closing := by cases b <;> decide
          have hstep : skipStep (.inside b around)
              (',' :: (gap ++ (e.1 ++ (e.2 ++ (more ++ b.closing :: rest))))) =
              .ok (some (.due (b :: around)), left ++ (e.2 ++ (more ++ b.closing :: rest))) := by
            simp [skipStep, skipBlanks_cons (show isBlank ',' = false by decide), hcomma, hlabel,
              Except.map]
          rw [htext, skipFrom_append hbefore, skipFrom_of_ok hstep, onward, skipFrom_append hleft,
            hvalue _ _ (hmore.stops hclosing rest)]
          exact ih hfront hskips rfl

/-- **A bracket** is passed over if what is in it is. -/
theorem skips_bracket (hfront : ∀ e ∈ entries, IsFront b e.1) (hskips : ∀ e ∈ entries, Skips e.2)
    (hopens : ∀ e ∈ entries, Opens b.closing (e.1 ++ e.2))
    (hinner : Listed (entries.map fun e => e.1 ++ e.2) inner) :
    Skips (b.opening :: inner ++ [b.closing]) := by
  have hclosing : b.closing = ']' ∨ b.closing = '}' := by cases b <;> decide
  have hblank : isBlank b.opening = false ∧ isBlank b.closing = false := by cases b <;> decide
  have hopened : opened? b.opening = some b := by cases b <;> decide
  intro around rest hrest
  have hstep (s : Text) : skipStep (.due around) (b.opening :: s) = skipOpened b around s := by
    rw [skipStep, skipBlanks_cons hblank.1]
    simp only [hopened]
  generalize hparts : (entries.map fun e => e.1 ++ e.2) = parts at hinner
  cases hinner with
  | nil hgap =>
      refine skipFrom_of_ok ?_
      rw [List.append_assoc, List.cons_append, hstep, skipOpened, skipBlanks_append hgap,
        List.singleton_append, skipBlanks_cons hblank.2]
      simp
  | @cons _ gap _ more hgap hmore =>
      cases entries with
      | nil => cases hparts
      | cons e entries =>
          obtain ⟨rfl, rfl⟩ := List.cons.inj hparts
          obtain ⟨⟨he, hfront⟩, ⟨hvalue, hskips⟩⟩ :=
            And.intro (List.forall_mem_cons.1 hfront) (List.forall_mem_cons.1 hskips)
          obtain ⟨left, hleft, hlabel⟩ :=
            skipLabel_front isPadding_nil he (e.2 ++ (more ++ b.closing :: rest))
          obtain ⟨c, s, hc, hcblank, hne⟩ := hopens e List.mem_cons_self
          have hfirst : e.1 ++ (e.2 ++ (more ++ b.closing :: rest)) =
              c :: (s ++ (more ++ b.closing :: rest)) := by
            rw [← List.append_assoc, hc, List.cons_append]
          rw [List.nil_append, hfirst] at hlabel
          have htext : b.opening :: (gap ++ (e.1 ++ e.2) ++ more) ++ [b.closing] ++ rest =
              b.opening :: (gap ++ c :: (s ++ (more ++ b.closing :: rest))) := by
            simp [← hfirst]
          have hopen : skipStep (.due around) (b.opening :: (gap ++ c :: (s ++ (more ++
              b.closing :: rest)))) =
              .ok (some (.due (b :: around)), left ++ (e.2 ++ (more ++ b.closing :: rest))) := by
            rw [hstep, skipOpened, skipBlanks_append hgap, skipBlanks_cons hcblank]
            simp only [if_neg hne, hlabel]
            rfl
          rw [htext, skipFrom_of_ok hopen, onward, skipFrom_append hleft,
            hvalue _ _ (hmore.stops hclosing rest)]
          exact skipFrom_further hfront hskips hmore around rest

end Entries

/-! ### All values -/

theorem IsLabel.opens {t : Text} (h : IsLabel t) (s : Text) : Opens '}' (t ++ s) := by
  cases h with
  | mk hkey _ _ =>
      cases hkey with
      | mk _ => exact ⟨'"', _, rfl, by decide, by decide⟩

theorem WellFormed.opens {t : Text} (h : WellFormed t) : Opens ']' t := by
  cases h with
  | null => exact ⟨'n', _, rfl, by decide, by decide⟩
  | true => exact ⟨'t', _, rfl, by decide, by decide⟩
  | false => exact ⟨'f', _, rfl, by decide, by decide⟩
  | number h =>
      cases h with
      | positive h =>
          obtain ⟨c, s, rfl, hc⟩ := h.exists_cons
          refine ⟨c, s, rfl, isBlank_of_isDigit hc, ?_⟩
          rintro rfl
          exact absurd hc (by decide)
      | negative h => exact ⟨'-', _, rfl, by decide, by decide⟩
  | string h =>
      cases h with
      | mk _ => exact ⟨'"', _, rfl, by decide, by decide⟩
  | array _ _ => exact ⟨'[', _, rfl, by decide, by decide⟩
  | object _ _ _ => exact ⟨'{', _, rfl, by decide, by decide⟩

/-- **Every well-formed value** is passed over. -/
theorem WellFormed.skips {t : Text} (h : WellFormed t) : Skips t := by
  induction h with
  | null =>
      exact skips_scalar (by decide) (by decide) rfl fun rest _ => ⟨(), reads_literal _ rest⟩
  | true =>
      exact skips_scalar (by decide) (by decide) rfl fun rest _ => ⟨(), reads_literal _ rest⟩
  | false =>
      exact skips_scalar (by decide) (by decide) rfl fun rest _ => ⟨(), reads_literal _ rest⟩
  | number h => exact h.skips
  | string h => exact h.skips
  | @array parts inner h hinner ih =>
      have hentry : ∀ e ∈ parts.map fun part => (([] : Text), part),
          IsFront .square e.1 ∧ Skips e.2 ∧ Opens ']' (e.1 ++ e.2) := by
        intro e he
        obtain ⟨part, hpart, rfl⟩ := List.mem_map.1 he
        exact ⟨rfl, ih part hpart, (h part hpart).opens⟩
      refine skips_bracket (fun e he => (hentry e he).1) (fun e he => (hentry e he).2.1)
        (fun e he => (hentry e he).2.2) ?_
      simpa [Function.comp_def] using hinner
  | @object members inner hlabel h hinner ih =>
      exact skips_bracket (b := .curly) hlabel ih (fun e he => (hlabel e he).opens e.2) hinner

/-- The value of a member that nobody asked for, behind the colon. -/
theorem WellFormed.passes_ignored {t before gap : Text} (h : WellFormed t)
    (hbefore : IsPadding before) (hgap : IsPadding gap) {rest : Text} (hrest : Stops rest) :
    ignored (before ++ ':' :: (gap ++ t) ++ rest) = .ok ((), rest) := by
  have hcolon : Reads colon (before ++ [':']) () :=
    reads_mark_padded (by decide) hbefore
  have htext : before ++ ':' :: (gap ++ t) ++ rest = before ++ [':'] ++ (gap ++ (t ++ rest)) := by
    simp
  rw [htext, ignored, bind_of_ok (hcolon _), skipValue, skipFrom_append hgap, h.skips [] rest hrest]
  rfl

end Declarator.Json
