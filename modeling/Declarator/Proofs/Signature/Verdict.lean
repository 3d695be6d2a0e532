import Declarator.Signature.Parser
import Declarator.Proofs.Parsing.Verdict
import Declarator.Proofs.Text.Cut
import Declarator.Proofs.Text.Words

/-!
# The verdict on a text

The parser of signatures is committed wherever it can go wrong, so what it does with a trimmed text
is a verdict. Here the verdict is computed from the text directly: from its words, from the pieces
between separators, and from the first parenthesis of either kind.

* `headerWords_eq`: the words of a header are the words of its text.
* `entry_trim`: an entry is read exactly if it has two words.
* `listVerdict`, `closedParameterList_cons`: the arguments behind an opening parenthesis.
* `verdict`, `parse_eq`: the whole signature.
-/

namespace Declarator.Signature

open Parsing Text
open Parsing.Outcome (ofVerdict andThen_ofVerdict)

/-! ### Words one after another -/

/-- What is left of a trimmed text behind one of its words. -/
structure IsRemainder (t : Text) : Prop where
  starts : StartsBlank t
  ends : EndsBare t

theorem IsRemainder.words_ne_nil {t : Text} (h : IsRemainder t) (hne : t ≠ []) : words t ≠ [] :=
  fun hw => hne (h.ends.eq_nil_of_isGap (words_eq_nil_iff.1 hw))

theorem token_isTrimmed {t : Text} (h : IsTrimmed t) :
    ∃ w rest, token t = .done w rest ∧ words t = w :: words rest ∧ IsRemainder rest ∧
      rest.length < t.length := by
  obtain ⟨c, s, rfl, hc⟩ := h.exists_cons
  refine ⟨_, _, takeTill1_cons hc s, words_cons_bare hc s,
    ⟨startsBlank_dropWhile _, h.ends.dropWhile _⟩, ?_⟩
  rw [List.dropWhile_cons_of_pos (by simp [hc]), List.length_cons]
  exact Nat.lt_succ_of_le (List.dropWhile_sublist _).length_le

theorem gap_isRemainder {t : Text} (h : IsRemainder t) (hne : t ≠ []) :
    ∃ g rest, gap t = .done g rest ∧ words t = words rest ∧ IsTrimmed rest ∧
      rest.length ≤ t.length := by
  obtain ⟨b, s, rfl⟩ := List.exists_cons_of_ne_nil hne
  have hb := startsBlank_cons.1 h.starts
  refine ⟨_, _, takeWhile1_cons hb s, (words_dropWhile_blank _).symm,
    ⟨?_, startsBare_dropWhile _, h.ends.dropWhile _⟩, (List.dropWhile_sublist _).length_le⟩
  intro hnil
  have hw := words_dropWhile_blank (b :: s)
  rw [hnil, words_nil] at hw
  exact h.words_ne_nil hne hw.symm

/-- **The loop over gaps and words** ends at the end of the text and has read all of its words. -/
theorem many_gap_token {t : Text} (h : IsRemainder t) :
    many .separatedList (do let _ ← gap; token) t = .done (words t) [] := by
  induction hn : t.length using Nat.strongRecOn generalizing t with
  | ind n ih =>
      by_cases hne : t = []
      · subst hne
        rw [words_nil, many_of_mismatch]
        rfl
      · obtain ⟨g, mid, hgap, hmid, htrimmed, hle⟩ := gap_isRemainder h hne
        obtain ⟨w, rest, htoken, hwords, hrest, hlt⟩ := token_isTrimmed htrimmed
        have hitem : (do let _ ← gap; token : Parser Error Text) t = .done w rest := by
          rw [Parser.bind_apply, hgap, Outcome.andThen_done, htoken]
        rw [many_of_done hitem (by omega), ih rest.length (by omega) hrest rfl, hmid, hwords]
        rfl

theorem headerWords_eq {t : Text} (h : IsTrimmed t) : headerWords t = .done (words t) [] := by
  obtain ⟨w, rest, htoken, hwords, hrest, -⟩ := token_isTrimmed h
  rw [hwords]
  exact allConsuming_of_done (separatedList1_of_done htoken (many_gap_token hrest))

/-- The header of a text that does not begin with a blank character. -/
theorem header_cons {c : Char} (hc : isBlank c = false) (t input : Text) :
    header (c :: t) input = ofVerdict input (Header.ofWords (words (c :: t))) := by
  rw [header, Parser.bind_apply, within, headerWords_eq (isTrimmed_trimEnd hc t), words_trimEnd]
  cases h : Header.ofWords (words (c :: t)) with
  | ok v => simp [h]
  | error e => simp [h, fail]

/-- **The words of a header** are its modifier's keyword, if there is one, its return type and its
method name. -/
theorem ofWords_eq_ok_iff {ws : List Text} {h : Header} :
    Header.ofWords ws = .ok h ↔ isKeyword h.returnType = false ∧
      ws = (h.modifier.map Modifier.keyword).toList ++ [h.returnType, h.methodName] := by
  obtain ⟨modifier, returnType, methodName⟩ := h
  constructor
  · intro hw
    rw [Header.ofWords.eq_def] at hw
    split at hw
    · cases hw
    · split at hw
      · cases hw
      · rename_i hkeyword
        cases hw
        exact ⟨Bool.eq_false_iff.2 hkeyword, rfl⟩
    · split at hw
      · cases hw
      · rename_i m hm
        split at hw
        · cases hw
        · rename_i hkeyword
          cases hw
          rw [Modifier.ofKeyword?_eq_some_iff.1 hm]
          exact ⟨Bool.eq_false_iff.2 hkeyword, rfl⟩
    · cases hw
  · rintro ⟨hkeyword, rfl⟩
    cases modifier with
    | none => simp [Header.ofWords, hkeyword]
    | some m => simp [Header.ofWords, hkeyword]

/-! ### Arguments -/

/-- The verdict on a piece of the argument list. -/
def entryVerdict (piece : Text) : Except Error Argument :=
  match words piece with
  | [type, name] => .ok ⟨type, name⟩
  | _ => .error (.malformedArgument (trim piece))

theorem entryVerdict_eq_ok_iff {piece : Text} {a : Argument} :
    entryVerdict piece = .ok a ↔ words piece = [a.type, a.name] := by
  rw [entryVerdict]
  split
  · rename_i type name hw
    rw [hw]
    obtain ⟨t, n⟩ := a
    simp
  · rename_i hw
    constructor
    · intro h
      cases h
    · intro h
      exact absurd h (hw _ _)

/-- The verdict on the text between the parentheses. -/
def argumentsVerdict (inner : Text) : Except Error (List Argument) :=
  if isAllBlank inner then .ok [] else (pieces inner).mapM entryVerdict

theorem argumentsVerdict_of_isGap {inner : Text} (h : IsGap inner) :
    argumentsVerdict inner = .ok [] :=
  if_pos (isAllBlank_iff.2 h)

theorem argumentsVerdict_of_not_isGap {inner : Text} (h : ¬ IsGap inner) :
    argumentsVerdict inner = (pieces inner).mapM entryVerdict :=
  if_neg fun hblank => h (isAllBlank_iff.1 hblank)

/-- The verdict on the text behind the opening parenthesis. -/
def listVerdict (list : Text) : Except Error (List Argument) := do
  let arguments ← argumentsVerdict (upTo ')' list)
  if ')' ∉ list then .error .missingCloseParen
  else if beyond ')' list = [] then .ok arguments
  else .error (.trailingInput (beyond ')' list))

/-- The verdict on a trimmed text. -/
def verdict (t : Text) : Except Error Signature :=
  if t.head? = some '(' then .error .missingReturnType
  else if '(' ∉ t then .error .missingOpenParen
  else do
    let arguments ← listVerdict (beyond '(' t)
    let h ← Header.ofWords (words (upTo '(' t))
    .ok ⟨h.modifier, h.returnType, h.methodName, arguments⟩

/-- **An entry is a type and a name** if its piece has two words, and malformed otherwise. -/
theorem entry_trim (piece input : Text) :
    entry (trim piece) input = ofVerdict input (entryVerdict piece) := by
  rw [entry, within, entryVerdict, ← words_trim piece]
  by_cases hnil : trim piece = []
  · rw [hnil]
    rfl
  obtain ⟨type, mid, htype, hwords, hmid, -⟩ := token_isTrimmed (isTrimmed_trim hnil)
  rw [hwords]
  by_cases hend : mid = []
  · -- One word, and no gap behind it.
    subst hend
    have hp : allConsuming typedName (trim piece) = .mismatch (.generic .takeWhile1) := by
      rw [allConsuming, Parser.bind_apply, typedName, Parser.bind_apply, htype]
      rfl
    rw [cut_of_mismatch hp]
    rfl
  obtain ⟨g, back, hgap, hback, htrimmed, -⟩ := gap_isRemainder hmid hend
  obtain ⟨name, rest, hname, hrest, hremainder, -⟩ := token_isTrimmed htrimmed
  have hp : typedName (trim piece) = .done ⟨type, name⟩ rest := by
    rw [typedName, Parser.bind_apply, htype, Outcome.andThen_done, Parser.bind_apply, hgap,
      Outcome.andThen_done, Parser.bind_apply, hname]
    rfl
  rw [hback, hrest]
  cases rest with
  | nil =>
      rw [cut_of_done (allConsuming_of_done hp), words_nil]
      rfl
  | cons b s =>
      -- A third word follows, so the end of the text is not reached.
      obtain ⟨w, ws, hws⟩ := List.exists_cons_of_ne_nil (hremainder.words_ne_nil (by simp))
      have hm : allConsuming typedName (trim piece) = .mismatch (.generic .eof) := by
        rw [allConsuming, Parser.bind_apply, hp]
        rfl
      rw [cut_of_mismatch hm, hws]
      rfl

theorem argumentList_eq (list : Text) :
    argumentList list =
      ofVerdict (list.dropWhile (!· == ')')) (argumentsVerdict (upTo ')' list)) := by
  rw [argumentList, Parser.bind_apply, takeTill, Outcome.andThen_done, argumentsVerdict, upTo]
  by_cases h : isAllBlank (list.takeWhile (!· == ')')) = true
  · rw [if_pos h, if_pos h]
    rfl
  · rw [if_neg h, if_neg h, List.mapM_map]
    exact mapM_ofVerdict (fun piece => entry_trim piece _) _

/-- Nothing may be left behind the closing parenthesis. -/
theorem endOfSignature_eq (t : Text) :
    endOfSignature t = ofVerdict [] (if t = [] then .ok () else .error (.trailingInput t)) := by
  cases t with
  | nil => rfl
  | cons c t => rfl

theorem closedParameterList_cons (list : Text) :
    closedParameterList ('(' :: list) = ofVerdict [] (listVerdict list) := by
  rw [closedParameterList, Parser.bind_apply, parameterList, Parser.bind_apply,
    cut_of_done (char_cons_self '(' list), Outcome.andThen_done, Parser.bind_apply,
    argumentList_eq, Outcome.andThen_assoc]
  refine andThen_ofVerdict fun arguments => ?_
  by_cases hclose : ')' ∈ list
  · rw [if_neg (not_not_intro hclose), dropWhile_eq_cons_beyond hclose, Parser.bind_apply,
      cut_of_done (char_cons_self ')' _), Outcome.andThen_done, Parser.pure_apply,
      Outcome.andThen_done, Parser.bind_apply, endOfSignature_eq]
    by_cases hend : beyond ')' list = []
    · rw [if_pos hend, if_pos hend]
      rfl
    · rw [if_neg hend, if_neg hend]
      rfl
  · rw [if_pos hclose, dropWhile_of_not_mem hclose, Parser.bind_apply,
      cut_of_mismatch (char_mismatch (by simp))]
    rfl

theorem closedParameterList_of_head {t : Text} (h : t.head? ≠ some '(') :
    closedParameterList t = .failure .missingOpenParen := by
  rw [closedParameterList, Parser.bind_apply, parameterList, Parser.bind_apply,
    cut_of_mismatch (char_mismatch h)]
  rfl

/-! ### Signatures -/

theorem signature_isTrimmed {t : Text} (h : IsTrimmed t) :
    signature t = ofVerdict [] (verdict t) := by
  obtain ⟨c, s, rfl, hc⟩ := h.exists_cons
  rw [signature, Parser.bind_apply, verdict]
  by_cases hopen : c = '('
  · -- Nothing stands before the parenthesis.
    subst hopen
    rw [cut_of_mismatch (takeTill1_mismatch (by simp))]
    rfl
  rw [if_neg (by simpa using hopen), cut_of_done (takeTill1_cons (by simpa using hopen) s),
    Outcome.andThen_done, Parser.bind_apply]
  by_cases hmem : '(' ∈ c :: s
  · rw [if_neg (not_not_intro hmem), dropWhile_eq_cons_beyond hmem, closedParameterList_cons]
    refine andThen_ofVerdict fun arguments => ?_
    rw [Parser.bind_apply]
    change ((header (upTo '(' (c :: s))) []).andThen _ = _
    rw [upTo_cons hopen, header_cons hc]
    exact andThen_ofVerdict fun h => rfl
  · rw [if_pos hmem, dropWhile_of_not_mem hmem, closedParameterList_of_head (by simp)]
    rfl

/-- **The verdict on any text** is that on the trimmed text, unless nothing is left of it. -/
theorem parse_eq (text : Text) :
    parse text = if trim text = [] then .error .empty else verdict (trim text) := by
  rw [parse]
  by_cases h : trim text = []
  · simp [h]
  · simp only [List.isEmpty_iff, h, if_false, signature_isTrimmed (isTrimmed_trim h),
      Outcome.settle_ofVerdict]

end Declarator.Signature
