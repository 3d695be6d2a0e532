import Declarator.Proofs.Parsing.Decided
import Declarator.Proofs.Signature.Refusal

/-!
# The words of a header

The words of a header are read by a loop over gaps and words that commits to nothing, so where it
did not match it would answer with an error that only names a rule. It matches every text that
begins with a character that is not blank, and a header is never told apart in any other text.

* `AsksHeader`: the texts that reading a signature tells a header apart in. `asksHeader_iff`: there
  is at most one, the part before the first parenthesis.
* `decides_signature`, `decides_closedParameterList`: no text is incomplete.
* `signature_trim_ne_mismatch`, `exists_closedParameterList_eq`: no mismatch is left, and no rule
  shows.
* `headerWords_eq_words_and_ne_generic`: **the words of a header are those of its text, and the
  error of their loop never surfaces.**
-/

namespace Declarator.Signature

open Parsing Text
open Parsing.Outcome (ofVerdict)

/-! ### Which texts hold the header -/

/-- The part of a signature before its first parenthesis. -/
def headerText : Parser Error Text :=
  cut (fun _ => .missingReturnType) (takeTill1 (· == '('))

/-- Reads a signature with `readHeader` in the place where the header is told apart. -/
def signatureWith (readHeader : Text → Parser Error Header) : Parser Error Signature := do
  let text ← headerText
  let arguments ← closedParameterList
  let h ← readHeader text
  return ⟨h.modifier, h.returnType, h.methodName, arguments⟩

theorem signatureWith_header : signatureWith header = signature := rfl

/-- `AsksHeader input opening`: reading `input` as a signature comes to tell the header apart in
`opening`, so that a parser of headers that is another one there, and only there, reads `input` as
something else. -/
def AsksHeader (input opening : Text) : Prop :=
  ∃ readHeader, (∀ text, text ≠ opening → readHeader text = header text) ∧
    signatureWith readHeader input ≠ signature input

variable {input opening list : Text}

theorem signatureWith_apply (readHeader : Text → Parser Error Header) (input : Text) :
    signatureWith readHeader input =
      (headerText input).andThen fun opening list =>
        (closedParameterList list).andThen fun arguments rest =>
          (readHeader opening rest).andThen fun h rest =>
            .done ⟨h.modifier, h.returnType, h.methodName, arguments⟩ rest :=
  rfl

/-- The parser of the header, but for the text `opening`, where it answers `y`. -/
def headerBut (opening : Text) (y : Outcome Error Header) (text : Text) : Parser Error Header :=
  fun input => if text = opening then y else header text input

theorem headerBut_self (opening : Text) (y : Outcome Error Header) (input : Text) :
    headerBut opening y opening input = y :=
  if_pos rfl

theorem headerBut_of_ne {text : Text} (h : text ≠ opening) (y : Outcome Error Header) :
    headerBut opening y text = header text := by
  funext input
  exact if_neg h

/-- Whatever a header is followed by, it can be read as something that changes the outcome. -/
theorem exists_andThen_ne (x : Outcome Error Signature)
    (f : Header → Text → Outcome Error Signature) :
    ∃ y : Outcome Error Header, y.andThen f ≠ x := by
  by_cases h : x = .incomplete 0
  · refine ⟨.incomplete 1, ?_⟩
    rw [h]
    simp [Outcome.andThen]
  · exact ⟨.incomplete 0, Ne.symm h⟩

/-- **The header is told apart** in the part before the first parenthesis and in no other text, once
the arguments have been read. -/
theorem asksHeader_iff :
    AsksHeader input opening ↔ ∃ list arguments rest,
      headerText input = .done opening list ∧ closedParameterList list = .done arguments rest := by
  constructor
  · rintro ⟨readHeader, hsame, hne⟩
    refine Classical.byContradiction fun hnot => hne ?_
    rw [← signatureWith_header, signatureWith_apply, signatureWith_apply]
    cases hopening : headerText input with
    | done text list =>
        rw [Outcome.andThen_done, Outcome.andThen_done]
        cases hlist : closedParameterList list with
        | done arguments rest =>
            have htext : text ≠ opening := by
              rintro rfl
              exact hnot ⟨list, arguments, rest, hopening, hlist⟩
            rw [Outcome.andThen_done, Outcome.andThen_done, hsame text htext]
        | mismatch e => rfl
        | failure e => rfl
        | incomplete n => rfl
    | mismatch e => rfl
    | failure e => rfl
    | incomplete n => rfl
  · rintro ⟨list, arguments, rest, hopening, hlist⟩
    obtain ⟨y, hy⟩ := exists_andThen_ne (signature input) fun h rest =>
      .done ⟨h.modifier, h.returnType, h.methodName, arguments⟩ rest
    refine ⟨headerBut opening y, fun text htext => headerBut_of_ne htext y, ?_⟩
    rw [signatureWith_apply, hopening, Outcome.andThen_done, hlist, Outcome.andThen_done,
      headerBut_self]
    exact hy

theorem headerText_eq_done (h : headerText input = .done opening list) :
    opening ≠ [] ∧ opening ++ list = input := by
  simp only [headerText, cut, takeTill1] at h
  split at h
  · cases h
  · split at h
    · cases h
    · next hne =>
        cases h
        exact ⟨hne, List.takeWhile_append_dropWhile⟩

/-- **No header begins with a blank character** where the text around it has been trimmed. -/
theorem exists_cons_of_asksHeader_trim {text : Text} (h : AsksHeader (trim text) opening) :
    ∃ c t, opening = c :: t ∧ isBlank c = false := by
  obtain ⟨list, arguments, rest, hopening, -⟩ := asksHeader_iff.1 h
  obtain ⟨hne, hsplit⟩ := headerText_eq_done hopening
  obtain ⟨c, t, rfl⟩ := List.exists_cons_of_ne_nil hne
  have hstarts := startsBare_trim text
  rw [← hsplit, List.cons_append] at hstarts
  exact ⟨c, t, rfl, startsBare_cons.1 hstarts⟩

/-! ### No text is incomplete -/

theorem decides_typedName : Decides typedName :=
  (Decides.takeTill1 _).bind fun type => (Decides.takeWhile1 _).bind fun _ =>
    (Decides.takeTill1 _).bind fun name => .pure (⟨type, name⟩ : Argument)

theorem decides_entry (segment : Text) : Decides (entry segment) :=
  (decides_typedName.allConsuming.cut _).within segment

theorem decides_argumentList : Decides argumentList := by
  refine (Decides.takeTill _).bind fun inner => ?_
  by_cases hblank : isAllBlank inner = true
  · rw [if_pos hblank]
    exact .pure []
  · rw [if_neg hblank]
    exact .mapM decides_entry _

theorem decides_closedParameterList : Decides closedParameterList := by
  have hlist : Decides parameterList :=
    ((Decides.char _).cut _).bind fun _ => decides_argumentList.bind fun arguments =>
      ((Decides.char _).cut _).bind fun _ => .pure arguments
  exact hlist.bind fun arguments => (Decides.eof.cut _).bind fun _ => .pure arguments

theorem decides_header (text : Text) : Decides (header text) := by
  have hwords : Decides headerWords :=
    ((Decides.takeWhile1 _).separatedList1 (.takeTill1 _)).allConsuming
  refine (hwords.within _).bind fun words => ?_
  cases Header.ofWords words with
  | ok h => exact .pure h
  | error e => exact .fail e

theorem decides_signature : Decides signature :=
  ((Decides.takeTill1 _).cut _).bind fun text => decides_closedParameterList.bind fun arguments =>
    (decides_header text).bind fun h =>
      .pure (⟨h.modifier, h.returnType, h.methodName, arguments⟩ : Signature)

/-! ### No rule shows -/

theorem signature_trim_ne_mismatch (text : Text) (e : Error) :
    signature (trim text) ≠ .mismatch e := by
  by_cases hnil : trim text = []
  · rw [hnil]
    intro h
    cases h
  · rw [signature_isTrimmed (isTrimmed_trim hnil)]
    exact Outcome.ofVerdict_ne_mismatch _ _ e

theorem argumentsVerdict_ne_generic (inner : Text) (rule : Rule) :
    argumentsVerdict inner ≠ .error (.generic rule) := by
  by_cases hblank : IsGap inner
  · rw [argumentsVerdict_of_isGap hblank]
    simp
  · cases hfind : (pieces inner).find? (fun p => (words p).length != 2) with
    | none =>
        obtain ⟨arguments, harguments⟩ := exists_mapM_entryVerdict hfind
        rw [argumentsVerdict_of_not_isGap hblank, harguments]
        simp
    | some piece =>
        rw [argumentsVerdict_of_find?_eq_some hblank hfind]
        simp

theorem listVerdict_ne_generic (list : Text) (rule : Rule) :
    listVerdict list ≠ .error (.generic rule) := by
  rw [listVerdict]
  cases harguments : argumentsVerdict (upTo ')' list) with
  | error e =>
      rintro ⟨⟩
      exact argumentsVerdict_ne_generic _ rule harguments
  | ok arguments =>
      change (if ')' ∉ list then _ else _) ≠ _
      split
      · simp
      · split <;> simp

/-- What a list is read as is a verdict that names no rule, wherever the list begins. -/
theorem exists_closedParameterList_eq (t : Text) :
    ∃ x, closedParameterList t = ofVerdict [] x ∧ ∀ rule, x ≠ .error (.generic rule) := by
  by_cases hopen : t.head? = some '('
  · obtain ⟨list, rfl⟩ := List.head?_eq_some_iff.1 hopen
    exact ⟨listVerdict list, closedParameterList_cons list, listVerdict_ne_generic list⟩
  · refine ⟨.error .missingOpenParen, closedParameterList_of_head hopen, fun rule => ?_⟩
    simp

theorem closedParameterList_ne_mismatch (t : Text) (e : Error) :
    closedParameterList t ≠ .mismatch e := by
  obtain ⟨x, hx, -⟩ := exists_closedParameterList_eq t
  rw [hx]
  exact Outcome.ofVerdict_ne_mismatch _ _ e

theorem parseArguments_ne_generic (text : Text) (rule : Rule) :
    parseArguments text ≠ .error (.generic rule) := by
  obtain ⟨x, hx, hrule⟩ := exists_closedParameterList_eq (trim text)
  rw [parseArguments, hx, Outcome.settle_ofVerdict]
  exact hrule rule

theorem parse_ne_generic (text : Text) (rule : Rule) : parse text ≠ .error (.generic rule) := by
  intro h
  obtain ⟨n, hfault, -⟩ := isFirstFault_of_parse_eq_error h
  exact hfault.ne_generic rule rfl

/-! ### The words of a header -/

theorem headerWords_trimEnd {c : Char} (hc : isBlank c = false) (t : Text) :
    headerWords (trimEnd (c :: t)) = .done (words (c :: t)) [] := by
  rw [headerWords_eq (isTrimmed_trimEnd hc t), words_trimEnd]

/-- **The words of a header.** In a text that begins with a character that is not blank they are the
words of the text, at least one, and nothing is left of it; and a header is told apart in no other
text. So neither a signature nor a list of arguments is ever incomplete or left to another attempt,
and no error that only names a rule surfaces. -/
theorem headerWords_eq_words_and_ne_generic :
    (∀ c t, isBlank c = false →
      headerWords (trimEnd (c :: t)) = .done (words (c :: t)) [] ∧ words (c :: t) ≠ []) ∧
    (∀ text opening, AsksHeader (trim text) opening →
      ∃ c t, opening = c :: t ∧ isBlank c = false) ∧
    (Decides signature ∧ Decides closedParameterList) ∧
    (∀ text e, signature (trim text) ≠ .mismatch e ∧
      closedParameterList (trim text) ≠ .mismatch e) ∧
    ∀ text rule, parse text ≠ .error (.generic rule) ∧
      parseArguments text ≠ .error (.generic rule) := by
  refine ⟨fun c t hc => ⟨headerWords_trimEnd hc t, ?_⟩, fun text opening => ?_, ⟨?_, ?_⟩,
    fun text e => ⟨?_, ?_⟩, fun text rule => ⟨?_, ?_⟩⟩
  · rw [words_cons_bare hc]
    simp
  · exact exists_cons_of_asksHeader_trim
  · exact decides_signature
  · exact decides_closedParameterList
  · exact signature_trim_ne_mismatch text e
  · exact closedParameterList_ne_mismatch _ e
  · exact parse_ne_generic text rule
  · exact parseArguments_ne_generic text rule

end Declarator.Signature
