import Declarator.Proofs.Signature.RoundTrip

/-!
# What can be read

The canonical form of a signature can be misread only where its space stands behind a comma. With a
tab in that place there is no space inside an argument, so every separator stands between two of
them, whatever commas and parentheses the words hold.

* `Signature.tabbed`: a signature with tabs inside its arguments.
* `Signature.parse_tabbed`: a well-formed signature is read back from it.
* `Signature.exists_parse_eq_ok_iff`: the signatures that are read from some text.
-/

namespace Declarator

open Text

/-! ### Arguments with tabs -/

/-- The type and the name, a tab between them. -/
def Argument.tabbed (a : Argument) : Text :=
  a.type ++ '\t' :: a.name

/-- Without a space there is no separator. -/
theorem Argument.writtenArgument_tabbed {a : Argument} (htype : IsWord ')' a.type)
    (hname : IsWord ')' a.name) : Signature.WrittenArgument a a.tabbed := by
  have htab : IsGap ['\t'] := by
    intro c hc
    rw [List.mem_singleton.1 hc]
    decide
  have hspace : ' ' ∉ [] ++ a.type ++ ['\t'] ++ a.name ++ [] := by
    simp [htype.space_not_mem, hname.space_not_mem]
  have h := Signature.WrittenArgument.mk a isGap_nil (by simp) htab isGap_nil htype hname
    (not_separator_infix_of_not_mem hspace)
  simpa [Argument.tabbed] using h

namespace Signature

theorem writtenEntries_tabbed {arguments : List Argument}
    (h : ∀ a ∈ arguments, IsWord ')' a.type ∧ IsWord ')' a.name) :
    WrittenEntries arguments (arguments.map Argument.tabbed) := by
  induction arguments with
  | nil => exact .nil
  | cons a arguments ih =>
      obtain ⟨⟨htype, hname⟩, hall⟩ := List.forall_mem_cons.1 h
      exact .cons (Argument.writtenArgument_tabbed htype hname) (ih hall)

theorem writtenArguments_tabbed {arguments : List Argument}
    (h : ∀ a ∈ arguments, IsWord ')' a.type ∧ IsWord ')' a.name) :
    WrittenArguments arguments (joined (arguments.map Argument.tabbed)) := by
  by_cases hne : arguments = []
  · rw [hne]
    exact .none isGap_nil
  · exact .some hne (writtenEntries_tabbed h)

/-! ### Signatures -/

/-- A signature with its header in canonical form and a tab inside each argument. -/
def tabbed (s : Signature) : Text :=
  s.canonicalHeader ++ '(' :: joined (s.arguments.map Argument.tabbed) ++ [')']

/-- **Every well-formed signature can be read**, also one whose canonical form cannot. -/
theorem parse_tabbed {s : Signature} (hs : IsWellFormed s) : parse s.tabbed = .ok s := by
  rw [parse_eq_ok_iff_written, written_iff]
  exact ⟨s.canonicalHeader, joined (s.arguments.map Argument.tabbed), [], rfl,
    writtenHeader_canonicalHeader hs, writtenArguments_tabbed hs.arguments, isGap_nil⟩

/-- **The image of reading.** A signature is read from some text exactly if its texts are words for
their places and its return type is no keyword. -/
theorem exists_parse_eq_ok_iff {s : Signature} :
    (∃ text, parse text = .ok s) ↔ IsWellFormed s := by
  constructor
  · rintro ⟨text, h⟩
    exact isWellFormed_of_parse_eq_ok h
  · intro hs
    exact ⟨s.tabbed, parse_tabbed hs⟩

/-- Parentheses, commas and keywords may stand in words, and arguments may occur twice. -/
example : parse "a)\tpublic(b,(\tprivate,, b,(\tprivate,)".toList =
    .ok ⟨none, "a)".toList, "public".toList,
      [⟨"b,(".toList, "private,".toList⟩, ⟨"b,(".toList, "private,".toList⟩]⟩ := by
  decide +kernel

end Signature

end Declarator
