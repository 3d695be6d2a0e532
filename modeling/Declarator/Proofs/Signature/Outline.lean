import Declarator.Proofs.Outline.Layouts
import Declarator.Signature.Outline

/-!
# Outlines of signatures

The words in the outline of a signature are made of letters and underscores, and no field is left
out, so a signature is told by its outline and the outline by its text. So is a refusal, whose cause
is told by its name and whose part of the text is shown in quotes.

* `Signature.isPlain_outline`, `Signature.outline_injective`: signatures.
* `Signature.Error.isPlain_outline`, `Signature.Error.outline_injective`: refusals.
* `Signature.resultOutline_text_inj`: **what reading a text gave**, in either layout.
-/

namespace Declarator

open Outline Text

theorem Modifier.isPlain_outline (m : Modifier) : IsPlain m.outline := by
  cases m <;> exact .word (by decide)

theorem Modifier.outline_injective : Function.Injective Modifier.outline := by
  intro m n h
  have hlabel : m.label = n.label := Outline.word.inj h
  revert hlabel
  cases m <;> cases n <;> decide

theorem Argument.isPlain_outline (a : Argument) : IsPlain a.outline := by
  have hlabels : ∀ label ∈ ["ty".toList, "name".toList], IsName label := by decide
  refine .record (by decide) (fun f hf => hlabels f.1 (List.mem_map_of_mem (f := Prod.fst) hf)) ?_
  intro f hf
  simp only [List.mem_cons, List.not_mem_nil, or_false] at hf
  rcases hf with rfl | rfl <;> exact .quoted _

theorem Argument.outline_injective : Function.Injective Argument.outline := by
  intro a b h
  obtain ⟨type, name⟩ := a
  obtain ⟨type', name'⟩ := b
  simpa [Argument.outline] using h

namespace Signature

theorem isPlain_modifierOutline (m : Option Modifier) : IsPlain (modifierOutline m) := by
  cases m with
  | none => exact .word (by decide)
  | some m =>
      refine .tuple (by decide) fun item hitem => ?_
      rw [List.mem_singleton.1 hitem]
      exact m.isPlain_outline

theorem modifierOutline_injective : Function.Injective modifierOutline := by
  intro m n h
  cases m with
  | none =>
      cases n with
      | none => rfl
      | some n => cases h
  | some m =>
      cases n with
      | none => cases h
      | some n =>
          have hitems := (Outline.tuple.inj h).2
          rw [Modifier.outline_injective (List.cons.inj hitems).1]

theorem isPlain_outline (s : Signature) : IsPlain s.outline := by
  have hlabels : ∀ label ∈ ["access_modifier".toList, "return_type".toList, "method_name".toList,
      "arguments".toList], IsName label := by decide
  refine .record (by decide) (fun f hf => hlabels f.1 (List.mem_map_of_mem (f := Prod.fst) hf)) ?_
  intro f hf
  simp only [List.mem_cons, List.not_mem_nil, or_false] at hf
  rcases hf with rfl | rfl | rfl | rfl
  · exact isPlain_modifierOutline s.modifier
  · exact .quoted _
  · exact .quoted _
  · refine .list fun item hitem => ?_
    obtain ⟨a, -, rfl⟩ := List.mem_map.1 hitem
    exact a.isPlain_outline

theorem outline_injective : Function.Injective outline := by
  intro s s' h
  obtain ⟨modifier, returnType, methodName, arguments⟩ := s
  obtain ⟨modifier', returnType', methodName', arguments'⟩ := s'
  simp only [outline, Outline.record.injEq, List.cons.injEq, Prod.mk.injEq, Outline.quoted.injEq,
    Outline.list.injEq, true_and, and_true] at h
  obtain ⟨hmodifier, rfl, rfl, harguments⟩ := h
  rw [modifierOutline_injective hmodifier,
    (List.map_inj_right fun _ _ h => Argument.outline_injective h).1 harguments]

/-! ### Refusals -/

theorem isName_toDigits (n : Nat) : IsName (Nat.toDigits 10 n) := by
  refine ⟨Nat.toDigits_ne_nil, fun c hc => ?_⟩
  obtain ⟨k, hk, rfl⟩ := exists_of_mem_toDigits (by decide) hc
  have hall : ∀ i : Fin 10, isNameChar (Nat.digitChar i) = true := by decide
  exact hall ⟨k, hk⟩

theorem isName_rule (rule : Parsing.Rule) : IsName rule.name := by
  cases rule <;> decide

theorem isPlain_field {name label : Text} {o : Outline} (hname : IsName name)
    (hlabel : IsName label) (h : IsPlain o) : IsPlain (.record name [(label, o)]) := by
  refine .record hname (fun f hf => ?_) (fun f hf => ?_)
  · rw [List.mem_singleton.1 hf]
    exact hlabel
  · rw [List.mem_singleton.1 hf]
    exact h

theorem eq_of_field_eq {name name' label label' : Text} {o o' : Outline}
    (h : Outline.record name [(label, o)] = .record name' [(label', o')]) : o = o' := by
  cases h
  rfl

namespace Error

/-- A cause without the part of the text that is at fault. -/
def bare : Error → Error
  | .unexpectedModifier _ => .unexpectedModifier []
  | .tooManyHeaderTokens _ => .tooManyHeaderTokens 0
  | .malformedArgument _ => .malformedArgument []
  | .trailingInput _ => .trailingInput []
  | .generic _ => .generic .tag
  | e => e

/-- Every cause once, without that part. -/
def bares : List Error := [
  .empty, .missingOpenParen, .missingCloseParen, .missingReturnType, .unexpectedModifier [],
  .tooManyHeaderTokens 0, .malformedArgument [], .trailingInput [], .generic .tag
]

theorem bare_mem_bares (e : Error) : e.bare ∈ bares := by
  cases e <;> simp [bares, bare]

theorem name_bare (e : Error) : e.bare.name = e.name := by
  cases e <;> rfl

/-- No two causes have the same name. -/
theorem bare_eq_of_name_eq {e e' : Error} (h : e.name = e'.name) : e.bare = e'.bare := by
  have hall : ∀ b ∈ bares, ∀ b' ∈ bares, b.name = b'.name → b = b' := by decide
  exact hall _ e.bare_mem_bares _ e'.bare_mem_bares (by rw [name_bare, name_bare, h])

theorem isName_name (e : Error) : IsName e.name := by
  have hall : ∀ b ∈ bares, IsName b.name := by decide
  rw [← name_bare]
  exact hall _ e.bare_mem_bares

theorem isPlain_outline (e : Error) : IsPlain e.outline := by
  have hname := e.isName_name
  cases e with
  | unexpectedModifier token => exact isPlain_field hname (by decide) (.quoted token)
  | tooManyHeaderTokens count =>
      exact isPlain_field hname (by decide) (.word (isName_toDigits count))
  | malformedArgument argument => exact isPlain_field hname (by decide) (.quoted argument)
  | trailingInput rest => exact isPlain_field hname (by decide) (.quoted rest)
  | generic rule => exact isPlain_field hname (by decide) (.word (isName_rule rule))
  | _ => exact .word hname

theorem name_outline (e : Error) : e.outline.name = e.name := by
  cases e <;> rfl

theorem outline_injective : Function.Injective Error.outline := by
  intro e e' h
  have hbare : e.bare = e'.bare := by
    apply bare_eq_of_name_eq
    rw [← e.name_outline, h, e'.name_outline]
  cases e with
  | unexpectedModifier token =>
      cases e' with
      | unexpectedModifier token' => rw [Outline.quoted.inj (eq_of_field_eq h)]
      | _ => cases hbare
  | tooManyHeaderTokens count =>
      cases e' with
      | tooManyHeaderTokens count' =>
          have hdigits := Outline.word.inj (eq_of_field_eq h)
          rw [toDigits_injective (by decide) (by decide) hdigits]
      | _ => cases hbare
  | malformedArgument argument =>
      cases e' with
      | malformedArgument argument' => rw [Outline.quoted.inj (eq_of_field_eq h)]
      | _ => cases hbare
  | trailingInput rest =>
      cases e' with
      | trailingInput rest' => rw [Outline.quoted.inj (eq_of_field_eq h)]
      | _ => cases hbare
  | generic rule =>
      cases e' with
      | generic rule' => rw [Parsing.Rule.name_injective (Outline.word.inj (eq_of_field_eq h))]
      | _ => cases hbare
  | _ =>
      cases e' <;> cases hbare
      rfl

end Error

/-! ### Results -/

theorem isPlain_resultOutline (r : Except Error Signature) : IsPlain (resultOutline r) := by
  cases r with
  | ok s =>
      refine .tuple (by decide) fun item hitem => ?_
      rw [List.mem_singleton.1 hitem]
      exact s.isPlain_outline
  | error e =>
      refine .tuple (by decide) fun item hitem => ?_
      rw [List.mem_singleton.1 hitem]
      exact e.isPlain_outline

theorem resultOutline_injective : Function.Injective resultOutline := by
  have hnames : "Ok".toList ≠ "Err".toList := by decide
  intro r r' h
  cases r with
  | ok s =>
      cases r' with
      | ok s' => rw [outline_injective (List.cons.inj (Outline.tuple.inj h).2).1]
      | error e' => exact absurd (Outline.tuple.inj h).1 hnames
  | error e =>
      cases r' with
      | ok s' => exact absurd (Outline.tuple.inj h).1.symm hnames
      | error e' => rw [Error.outline_injective (List.cons.inj (Outline.tuple.inj h).2).1]

/-- **What reading a text gave is told by its outline**, on one line and on many: no two results, of
any texts and with any parts of them shown, have the same text in either layout. -/
theorem resultOutline_text_inj (r r' : Except Error Signature) :
    ((resultOutline r).compact = (resultOutline r').compact ↔ r = r') ∧
      ((resultOutline r).pretty 0 = (resultOutline r').pretty 0 ↔ r = r') := by
  have htold (L : Layout) (h : L.write 0 (resultOutline r) = L.write 0 (resultOutline r')) :
      r = r' := by
    have happend := congrArg (· ++ []) h
    exact resultOutline_injective (L.isTold_of_isPlain (isPlain_resultOutline r)
      (isPlain_resultOutline r') endsPart_nil endsPart_nil happend).1
  refine ⟨⟨htold oneLine, ?_⟩, ⟨htold manyLines, ?_⟩⟩
  · rintro rfl
    rfl
  · rintro rfl
    rfl

end Signature

end Declarator
