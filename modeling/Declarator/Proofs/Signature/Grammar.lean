import Declarator.Proofs.Signature.Layout
import Declarator.Proofs.Text.Pieces

/-!
# The grammar of signatures

The verdict on a text, which is computed from its words and pieces, is compared with the written
form of signatures, which is put together from gaps, words and separators. They agree part by part:

* `writtenHeader_iff`: the text before the opening parenthesis.
* `writtenArgument_iff`, `writtenArguments_iff`: an argument, and what stands between the
  parentheses.
* `parse_eq_ok_iff_written`: the whole text is read as a signature exactly if it is a written form
  of that signature.
-/

namespace Declarator

open Parsing Text

theorem isWord_keyword (m : Modifier) : IsWord '(' m.keyword := by
  have hne : m.keyword.isEmpty = false := by cases m <;> decide
  have hbare : m.keyword.all (!isBlank ·) = true := by cases m <;> decide
  have hstop : m.keyword.contains '(' = false := by cases m <;> decide
  exact ⟨by simpa using hne, by simpa using hbare, by simpa using hstop⟩

namespace Signature

/-! ### The header -/

/-- A text is a written form of a header: an optional modifier, a return type that is no keyword,
and the method name. -/
inductive WrittenHeader : Header → Text → Prop where
  | mk (h : Header) {before modifier between after : Text} (hbefore : IsGap before)
      (hmodifier : WrittenModifier h.modifier modifier) (hne : between ≠ [])
      (hbetween : IsGap between) (hafter : IsGap after) (hreturn : IsWord '(' h.returnType)
      (hkeyword : isKeyword h.returnType = false) (hname : IsWord '(' h.methodName) :
      WrittenHeader h (before ++ modifier ++ h.returnType ++ between ++ h.methodName ++ after)

/-- A modifier and the gap behind it, in front of a text. -/
theorem words_writtenModifier {m : Option Modifier} {modifier : Text}
    (h : WrittenModifier m modifier) (t : Text) :
    words (modifier ++ t) = (m.map Modifier.keyword).toList ++ words t := by
  cases h with
  | absent => rfl
  | present m hne hgap =>
      rw [words_append_gap_append _ hne hgap, (isWord_keyword m).isRun.words_eq]
      rfl

theorem open_not_mem_modifier {m : Option Modifier} {modifier : Text}
    (h : WrittenModifier m modifier) : '(' ∉ modifier := by
  cases h with
  | absent => simp
  | present m hne hgap =>
      rw [List.mem_append, not_or]
      exact ⟨(isWord_keyword m).stop_not_mem, hgap.not_mem (by decide)⟩

theorem writtenHeader_iff {h : Header} {t : Text} :
    WrittenHeader h t ↔ Header.ofWords (words t) = .ok h ∧ '(' ∉ t := by
  constructor
  · rintro ⟨hbefore, hmodifier, hne, hbetween, hafter, hreturn, hkeyword, hname⟩
    refine ⟨ofWords_eq_ok_iff.2 ⟨hkeyword, ?_⟩, ?_⟩
    · rw [words_append_gap _ hafter, words_append_gap_append _ hne hbetween, hname.isRun.words_eq,
        List.append_assoc, words_gap_append hbefore, words_writtenModifier hmodifier,
        hreturn.isRun.words_eq, List.append_assoc, List.singleton_append]
    · simp only [List.mem_append, not_or]
      exact ⟨⟨⟨⟨⟨hbefore.not_mem (by decide), open_not_mem_modifier hmodifier⟩,
        hreturn.stop_not_mem⟩, hbetween.not_mem (by decide)⟩, hname.stop_not_mem⟩,
        hafter.not_mem (by decide)⟩
  · rintro ⟨hw, hopen⟩
    obtain ⟨hkeyword, hw⟩ := ofWords_eq_ok_iff.1 hw
    have hreturn : IsWord '(' h.returnType := isWord_of_mem_words (by simp [hw]) hopen
    have hname : IsWord '(' h.methodName := isWord_of_mem_words (by simp [hw]) hopen
    obtain ⟨modifier, returnType, methodName⟩ := h
    cases modifier with
    | none =>
        obtain ⟨before, between, after, rfl, hbefore, -, hne, hbetween, -, hafter⟩ :=
          words_eq_pair_iff.1 hw
        have := WrittenHeader.mk ⟨none, returnType, methodName⟩ hbefore .absent hne hbetween hafter
          hreturn hkeyword hname
        simpa using this
    | some m =>
        obtain ⟨before, gap, rest, rfl, hbefore, -, hgap, hisGap, hrest⟩ :=
          words_eq_cons_cons_iff.1 hw
        obtain ⟨front, between, after, rfl, hfront, -, hne, hbetween, -, hafter⟩ :=
          words_eq_pair_iff.1 hrest
        have hmodifier : WrittenModifier (some m) (m.keyword ++ (gap ++ front)) :=
          .present m (by simp [hgap]) (isGap_append.2 ⟨hisGap, hfront⟩)
        have := WrittenHeader.mk ⟨some m, returnType, methodName⟩ hbefore hmodifier hne hbetween
          hafter hreturn hkeyword hname
        simpa using this

/-! ### The arguments -/

section Arguments

variable {arguments : List Argument} {entries : List Text}

theorem writtenArgument_iff {a : Argument} {t : Text} :
    WrittenArgument a t ↔ entryVerdict t = .ok a ∧ ')' ∉ t ∧ ¬ separator <:+: t := by
  rw [entryVerdict_eq_ok_iff]
  constructor
  · rintro ⟨hbefore, hne, hbetween, hafter, htype, hname, hsep⟩
    refine ⟨?_, ?_, hsep⟩
    · exact words_eq_pair_iff.2
        ⟨_, _, _, rfl, hbefore, htype.isRun, hne, hbetween, hname.isRun, hafter⟩
    · simp only [List.mem_append, not_or]
      exact ⟨⟨⟨⟨hbefore.not_mem (by decide), htype.stop_not_mem⟩, hbetween.not_mem (by decide)⟩,
        hname.stop_not_mem⟩, hafter.not_mem (by decide)⟩
  · rintro ⟨hw, hclose, hsep⟩
    have htype : IsWord ')' a.type := isWord_of_mem_words (by simp [hw]) hclose
    have hname : IsWord ')' a.name := isWord_of_mem_words (by simp [hw]) hclose
    obtain ⟨before, between, after, rfl, hbefore, -, hne, hbetween, -, hafter⟩ :=
      words_eq_pair_iff.1 hw
    exact .mk a hbefore hne hbetween hafter htype hname hsep

theorem writtenEntries_iff :
    WrittenEntries arguments entries ↔ entries.mapM entryVerdict = .ok arguments ∧
      ∀ t ∈ entries, ')' ∉ t ∧ ¬ separator <:+: t := by
  induction entries generalizing arguments with
  | nil =>
      constructor
      · rintro ⟨⟩
        exact ⟨rfl, by simp⟩
      · rintro ⟨h, -⟩
        cases h
        exact .nil
  | cons t entries ih =>
      rw [List.mapM_cons]
      constructor
      · intro h
        cases h with
        | cons ha hs =>
            obtain ⟨hverdict, ht⟩ := writtenArgument_iff.1 ha
            obtain ⟨hverdicts, hall⟩ := ih.1 hs
            rw [hverdict, hverdicts]
            exact ⟨rfl, List.forall_mem_cons.2 ⟨ht, hall⟩⟩
      · rintro ⟨h, hall⟩
        obtain ⟨ht, hall⟩ := List.forall_mem_cons.1 hall
        obtain ⟨a, ha, h⟩ := verdict_bind_eq_ok.1 h
        obtain ⟨as, has, h⟩ := verdict_bind_eq_ok.1 h
        cases h
        exact .cons (writtenArgument_iff.2 ⟨ha, ht⟩) (ih.2 ⟨has, hall⟩)

theorem WrittenEntries.ne_nil_iff (h : WrittenEntries arguments entries) :
    entries ≠ [] ↔ arguments ≠ [] := by
  cases h <;> simp

theorem WrittenEntries.pieces_joined (h : WrittenEntries arguments entries)
    (hne : arguments ≠ []) : pieces (joined entries) = entries :=
  pieces_joined_of_forall (h.ne_nil_iff.2 hne) fun t ht => ((writtenEntries_iff.1 h).2 t ht).2

/-- An entry has two words, so what it is part of is not blank. -/
theorem WrittenEntries.not_isGap_joined (h : WrittenEntries arguments entries)
    (hne : arguments ≠ []) : ¬ IsGap (joined entries) := by
  intro hgap
  have hpieces := h.pieces_joined hne
  cases h with
  | nil => exact hne rfl
  | @cons a t arguments entries ha hs =>
      have hw := entryVerdict_eq_ok_iff.1 (writtenArgument_iff.1 ha).1
      have ht : t ⊆ joined (t :: entries) := (infix_of_mem_pieces (by simp [hpieces])).subset
      rw [words_gap fun c hc => hgap c (ht hc)] at hw
      cases hw

/-- **The arguments are the entries between separators**, or none at all. -/
theorem writtenArguments_iff {inner : Text} :
    WrittenArguments arguments inner ↔
      argumentsVerdict inner = .ok arguments ∧ ')' ∉ inner := by
  constructor
  · intro h
    cases h with
    | none hgap => exact ⟨argumentsVerdict_of_isGap hgap, hgap.not_mem (by decide)⟩
    | some hne hs =>
        obtain ⟨hverdicts, hall⟩ := writtenEntries_iff.1 hs
        refine ⟨?_, not_mem_joined (by decide) fun t ht => (hall t ht).1⟩
        rw [argumentsVerdict_of_not_isGap (hs.not_isGap_joined hne), hs.pieces_joined hne,
          hverdicts]
  · rintro ⟨h, hclose⟩
    by_cases hblank : IsGap inner
    · rw [argumentsVerdict_of_isGap hblank] at h
      cases h
      exact .none hblank
    · rw [argumentsVerdict_of_not_isGap hblank] at h
      have hs : WrittenEntries arguments (pieces inner) :=
        writtenEntries_iff.2 ⟨h, fun p hp =>
          ⟨fun hc => hclose ((infix_of_mem_pieces hp).subset hc), not_separator_infix_of_mem_pieces hp⟩⟩
      rw [← joined_pieces inner]
      exact .some (hs.ne_nil_iff.1 (pieces_ne_nil inner)) hs

theorem WrittenEntries.isWord (h : WrittenEntries arguments entries) :
    ∀ a ∈ arguments, IsWord ')' a.type ∧ IsWord ')' a.name := by
  induction h with
  | nil => simp
  | cons ha _ ih =>
      cases ha with
      | mk _ _ _ _ htype hname _ => exact List.forall_mem_cons.2 ⟨⟨htype, hname⟩, ih⟩

end Arguments

/-! ### Signatures -/

/-- **What is read is well formed.** -/
theorem isWellFormed_of_parse_eq_ok {text : Text} {s : Signature} (h : parse text = .ok s) :
    IsWellFormed s := by
  obtain ⟨header, inner, behind, -, hopen, hclose, -, hheader, harguments⟩ := parse_eq_ok_iff.1 h
  obtain ⟨modifier, returnType, methodName, arguments⟩ := s
  have hwords : ∀ a ∈ arguments, IsWord ')' a.type ∧ IsWord ')' a.name := by
    cases writtenArguments_iff.2 ⟨harguments, hclose⟩ with
    | none hgap => simp
    | some hne hs => exact hs.isWord
  cases writtenHeader_iff.2 ⟨hheader, hopen⟩ with
  | mk hbefore hmodifier hne hbetween hafter hreturn hkeyword hname =>
      exact ⟨hreturn, hkeyword, hname, hwords⟩

theorem written_iff {s : Signature} {text : Text} :
    Written s text ↔ ∃ header inner behind, text = header ++ '(' :: inner ++ ')' :: behind ∧
      WrittenHeader ⟨s.modifier, s.returnType, s.methodName⟩ header ∧
      WrittenArguments s.arguments inner ∧ IsGap behind := by
  constructor
  · rintro ⟨hbefore, hmodifier, hne, hbetween, hafter, hbehind, hreturn, hkeyword, hname, hlist⟩
    exact ⟨_, _, _, rfl, .mk _ hbefore hmodifier hne hbetween hafter hreturn hkeyword hname, hlist,
      hbehind⟩
  · rintro ⟨header, inner, behind, rfl, hheader, hlist, hbehind⟩
    obtain ⟨modifier, returnType, methodName, arguments⟩ := s
    cases hheader with
    | mk hbefore hmodifier hne hbetween hafter hreturn hkeyword hname =>
        exact .mk ⟨modifier, returnType, methodName, arguments⟩ hbefore hmodifier hne hbetween
          hafter hbehind hreturn hkeyword hname hlist

/-- **The grammar.** A text is read as a signature exactly if it is a written form of it. -/
theorem parse_eq_ok_iff_written {text : Text} {s : Signature} :
    parse text = .ok s ↔ Written s text := by
  rw [parse_eq_ok_iff, written_iff]
  constructor
  · rintro ⟨header, inner, behind, ht, hopen, hclose, hbehind, hheader, harguments⟩
    exact ⟨header, inner, behind, ht, writtenHeader_iff.2 ⟨hheader, hopen⟩,
      writtenArguments_iff.2 ⟨harguments, hclose⟩, hbehind⟩
  · rintro ⟨header, inner, behind, ht, hheader, harguments, hbehind⟩
    obtain ⟨hheader, hopen⟩ := writtenHeader_iff.1 hheader
    obtain ⟨harguments, hclose⟩ := writtenArguments_iff.1 harguments
    exact ⟨header, inner, behind, ht, hopen, hclose, hbehind, hheader, harguments⟩

end Signature

end Declarator
