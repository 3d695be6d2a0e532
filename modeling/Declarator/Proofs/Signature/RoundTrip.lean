import Declarator.Signature.Canonical
import Declarator.Proofs.Signature.Grammar

/-!
# Reading the canonical form

The canonical form of a signature made of words has its parentheses where they should be, and its
header is read back. Between the parentheses one thing can go wrong: a type that ends in a comma
makes a separator together with the space behind it, and the argument is cut in two.

* `pieces_canonical`: what an argument is cut into.
* `argumentsVerdict_canonicalArguments`, `parse_canonical`: the verdict on a canonical form.
* `parse_canonical_eq_ok_iff`: which signatures are read back from their canonical form.
* `parse_canonical_of_parse_eq_ok`: which of those that were read are.
-/

namespace Declarator

open Parsing Text

/-! ### Arguments -/

/-- The type of an argument ends in a comma. -/
def Argument.endsInComma (a : Argument) : Bool :=
  a.type.getLast? == some ','

theorem Argument.endsInComma_iff {a : Argument} :
    a.endsInComma = true ↔ a.type.getLast? = some ',' :=
  beq_iff_eq

namespace Signature

variable {a : Argument}

theorem words_canonical (htype : IsWord ')' a.type) (hname : IsWord ')' a.name) :
    words a.canonical = [a.type, a.name] :=
  words_eq_pair_iff.2 ⟨[], [' '], [], by simp [Argument.canonical], isGap_nil, htype.isRun, by simp,
    isGap_space, hname.isRun, isGap_nil⟩

/-- The only space of an argument stands behind its type, so a separator in it ends there. -/
theorem separator_infix_canonical_iff (htype : IsWord ')' a.type) (hname : IsWord ')' a.name) :
    separator <:+: a.canonical ↔ a.endsInComma = true := by
  rw [Argument.endsInComma_iff]
  constructor
  · rintro ⟨u, v, h⟩
    have hcut : (u ++ [',']) ++ ' ' :: v = a.type ++ ' ' :: a.name := by
      simpa [separator, Argument.canonical] using h
    have hspace : ' ' ∉ u ++ [','] := by
      have hcount := congrArg (List.count ' ') hcut
      simp only [List.count_append, List.count_cons_self,
        List.count_eq_zero.2 htype.space_not_mem,
        List.count_eq_zero.2 hname.space_not_mem] at hcount
      exact List.count_eq_zero.1 (by rw [List.count_append]; omega)
    have htake := congrArg (upTo ' ') hcut
    rw [upTo_append_cons htype.space_not_mem, upTo_append_cons hspace] at htake
    simp [← htake]
  · intro h
    obtain ⟨u, hu⟩ := List.getLast?_eq_some_iff.1 h
    exact ⟨u, a.name, by simp [Argument.canonical, hu, separator]⟩

/-- **What an argument is cut into.** A comma at the end of its type goes with the separator. -/
theorem pieces_canonical (htype : IsWord ')' a.type) (hname : IsWord ')' a.name) :
    pieces a.canonical =
      if a.endsInComma then [a.type.dropLast, a.name] else [a.canonical] := by
  by_cases h : a.endsInComma = true
  · rw [if_pos h]
    obtain ⟨u, hu⟩ := List.getLast?_eq_some_iff.1 (Argument.endsInComma_iff.1 h)
    have hspace : ' ' ∉ u := fun hmem => htype.space_not_mem (by simp [hu, hmem])
    have hcut : a.canonical = u ++ separator ++ a.name := by
      simp [Argument.canonical, hu, separator]
    rw [hcut, pieces_append_separator, hu, List.dropLast_concat,
      pieces_eq_singleton (not_separator_infix_of_not_mem hspace),
      pieces_eq_singleton (not_separator_infix_of_not_mem hname.space_not_mem),
      List.singleton_append]
  · have hsep : ¬ separator <:+: a.canonical := by
      rwa [separator_infix_canonical_iff htype hname]
    rw [if_neg h, pieces_eq_singleton hsep]

/-- A text without blank characters is no entry. -/
theorem entryVerdict_of_not_blank {t : Text} (h : ∀ c ∈ t, isBlank c = false) :
    entryVerdict t = .error (.malformedArgument t) := by
  by_cases hne : t = []
  · rw [hne]
    rfl
  · have hrun : IsRun t := ⟨hne, h⟩
    rw [entryVerdict, hrun.words_eq, hrun.isTrimmed.trim_eq]

theorem mapM_entryVerdict_canonical {arguments : List Argument}
    (h : ∀ a ∈ arguments, IsWord ')' a.type ∧ IsWord ')' a.name) :
    ((arguments.map Argument.canonical).flatMap pieces).mapM entryVerdict =
      match arguments.find? Argument.endsInComma with
      | none => .ok arguments
      | some a => .error (.malformedArgument a.type.dropLast) := by
  induction arguments with
  | nil => rfl
  | cons a arguments ih =>
      obtain ⟨⟨htype, hname⟩, hall⟩ := List.forall_mem_cons.1 h
      rw [List.map_cons, List.flatMap_cons, pieces_canonical htype hname, List.mapM_append]
      by_cases hcomma : a.endsInComma = true
      · have hblank : ∀ c ∈ a.type.dropLast, isBlank c = false :=
          fun c hc => htype.not_blank c (List.dropLast_subset _ hc)
        rw [if_pos hcomma, List.find?_cons_of_pos hcomma, List.mapM_cons,
          entryVerdict_of_not_blank hblank]
        rfl
      · rw [if_neg hcomma, List.find?_cons_of_neg hcomma, List.mapM_cons,
          entryVerdict_eq_ok_iff.2 (words_canonical htype hname), ih hall]
        cases arguments.find? Argument.endsInComma with
        | none => rfl
        | some b => rfl

/-- **The arguments of a canonical form** are read up to the first whose type ends in a comma. -/
theorem argumentsVerdict_canonicalArguments {arguments : List Argument}
    (h : ∀ a ∈ arguments, IsWord ')' a.type ∧ IsWord ')' a.name) :
    argumentsVerdict (canonicalArguments arguments) =
      match arguments.find? Argument.endsInComma with
      | none => .ok arguments
      | some a => .error (.malformedArgument a.type.dropLast) := by
  cases arguments with
  | nil => rfl
  | cons a arguments =>
      have hne : (a :: arguments).map Argument.canonical ≠ [] := by simp
      have hblank : ¬ IsGap (canonicalArguments (a :: arguments)) := by
        intro hblank
        obtain ⟨c, w, hw⟩ := List.exists_cons_of_ne_nil (h a (by simp)).1.ne_nil
        have hc := (h a (by simp)).1.not_blank c (by simp [hw])
        refine hblank.not_mem hc ?_
        cases arguments <;> simp [canonicalArguments, Argument.canonical, hw]
      rw [argumentsVerdict_of_not_isGap hblank, canonicalArguments, pieces_joined hne,
        mapM_entryVerdict_canonical h]

/-! ### Signatures -/

theorem writtenHeader_canonicalHeader {s : Signature} (hs : IsWellFormed s) :
    WrittenHeader ⟨s.modifier, s.returnType, s.methodName⟩ s.canonicalHeader := by
  have hmodifier : WrittenModifier s.modifier
      (s.modifier.elim [] fun m => m.keyword ++ [' ']) := by
    cases s.modifier with
    | none => exact .absent
    | some m => exact .present m (by simp) isGap_space
  have := WrittenHeader.mk ⟨s.modifier, s.returnType, s.methodName⟩ isGap_nil hmodifier
    (List.cons_ne_nil ' ' []) isGap_space isGap_nil hs.returnType hs.returnType_not_keyword
    hs.methodName
  simpa [canonicalHeader] using this

theorem close_not_mem_canonicalArguments {arguments : List Argument}
    (h : ∀ a ∈ arguments, IsWord ')' a.type ∧ IsWord ')' a.name) :
    ')' ∉ canonicalArguments arguments := by
  refine not_mem_joined (by decide) fun t ht => ?_
  obtain ⟨a, ha, rfl⟩ := List.mem_map.1 ht
  have hspace : ')' ≠ ' ' := by decide
  simp [Argument.canonical, (h a ha).1.stop_not_mem, (h a ha).2.stop_not_mem, hspace]

/-- **The verdict on a canonical form**: the signature that was written, or else the first type
that ends in a comma, without that comma, is taken for an argument and refused. -/
theorem parse_canonical {s : Signature} (hs : IsWellFormed s) :
    parse s.canonical = match s.arguments.find? Argument.endsInComma with
      | none => .ok s
      | some a => .error (.malformedArgument a.type.dropLast) := by
  obtain ⟨hheader, hopen⟩ := writtenHeader_iff.1 (writtenHeader_canonicalHeader hs)
  have hclose := close_not_mem_canonicalArguments hs.arguments
  have hend : trimEnd (canonicalArguments s.arguments ++ [')']) =
      canonicalArguments s.arguments ++ [')'] :=
    trimEnd_append_cons (by decide) _ []
  rw [canonical, List.append_assoc, List.cons_append,
    parse_append_cons (not_isGap_of_ofWords_eq_ok hheader) hopen, hend,
    listVerdict_append_cons hclose, argumentsVerdict_canonicalArguments hs.arguments, hheader]
  cases s.arguments.find? Argument.endsInComma with
  | none => rfl
  | some a => rfl

theorem parse_canonical_eq_ok_iff_of_isWellFormed {s : Signature} (hs : IsWellFormed s) :
    parse s.canonical = .ok s ↔ ∀ a ∈ s.arguments, a.type.getLast? ≠ some ',' := by
  have hnone : s.arguments.find? Argument.endsInComma = none ↔
      ∀ a ∈ s.arguments, a.type.getLast? ≠ some ',' := by
    simp only [List.find?_eq_none, Argument.endsInComma_iff, ne_eq]
  rw [parse_canonical hs, ← hnone]
  cases s.arguments.find? Argument.endsInComma with
  | none => simp
  | some a => simp

/-- **The round trip.** A signature is read back from its canonical form exactly if it is well
formed and none of its types ends in a comma. -/
theorem parse_canonical_eq_ok_iff {s : Signature} :
    parse s.canonical = .ok s ↔
      IsWellFormed s ∧ ∀ a ∈ s.arguments, a.type.getLast? ≠ some ',' := by
  constructor
  · intro h
    have hs := isWellFormed_of_parse_eq_ok h
    exact ⟨hs, (parse_canonical_eq_ok_iff_of_isWellFormed hs).1 h⟩
  · rintro ⟨hs, hcomma⟩
    exact (parse_canonical_eq_ok_iff_of_isWellFormed hs).2 hcomma

/-- **The round trip of what was read** fails exactly if one of the types ends in a comma. Then the
canonical form is refused, and the first such type, without the comma, is what is wrong with it. -/
theorem parse_canonical_of_parse_eq_ok {text : Text} {s : Signature} (h : parse text = .ok s) :
    (parse s.canonical = .ok s ↔ ∀ a ∈ s.arguments, a.type.getLast? ≠ some ',') ∧
      ∀ a, s.arguments.find? Argument.endsInComma = some a →
        parse s.canonical = .error (.malformedArgument a.type.dropLast) := by
  have hs := isWellFormed_of_parse_eq_ok h
  refine ⟨parse_canonical_eq_ok_iff_of_isWellFormed hs, fun a ha => ?_⟩
  rw [parse_canonical hs, ha]

theorem parse_canonical_of_comma_behind_comma :
    parse "public a b(int x, c,,\td, e,\rf)".toList =
        .ok ⟨some .publicAccess, ['a'], ['b'],
          [⟨"int".toList, ['x']⟩, ⟨"c,,".toList, ['d']⟩, ⟨"e,".toList, ['f']⟩]⟩ ∧
      parse "public a b(int x, c,, d, e, f)".toList = .error (.malformedArgument "c,".toList) := by
  have h : parse "public a b(int x, c,,\td, e,\rf)".toList =
      .ok ⟨some .publicAccess, ['a'], ['b'],
        [⟨"int".toList, ['x']⟩, ⟨"c,,".toList, ['d']⟩, ⟨"e,".toList, ['f']⟩]⟩ := by
    decide +kernel
  exact ⟨h, (parse_canonical_of_parse_eq_ok h).2 ⟨"c,,".toList, ['d']⟩ (by decide)⟩

/-- A tab keeps a comma and the name behind it apart, and the space in its place does not. -/
theorem not_parse_canonical_of_tab_behind_comma :
    ∃ s, parse "a b(c,\td)".toList = .ok s ∧ parse s.canonical ≠ .ok s :=
  ⟨⟨none, ['a'], ['b'], [⟨"c,".toList, ['d']⟩]⟩, by decide +kernel, by decide +kernel⟩

end Signature

end Declarator
