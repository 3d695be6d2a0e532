import Declarator.Proofs.Signature.Members

/-!
# All written forms of a signature are decoded alike

An array of the fields and an object of them are read as the same signature, and inside either each
part may be written in any of its forms.

* `Signature.reads_readerUnder`: written forms are read.
* `Signature.decode_eq_ok_of_spelled`: **whole texts.**
-/

namespace Declarator.Signature

open Json

/-- The four fields in order. -/
theorem reads_fields (rule : Modifier.KeyRule) {s : Signature}
    {modifierText returnText nameText argumentsText inner : Text}
    (hmodifier : SpelledModifier s.modifier modifierText)
    (hreturn : SpelledString s.returnType returnText) (hname : SpelledString s.methodName nameText)
    (harguments : SpelledList Argument.Spelled s.arguments argumentsText)
    (hinner : Listed [modifierText, returnText, nameText, argumentsText] inner) :
    Reads (readerUnder rule) ('[' :: inner ++ [']']) s := by
  rcases hinner with _ | ⟨hgap, h⟩
  rcases h with _ | ⟨hbefore₁, hgap₁, h⟩
  rcases h with _ | ⟨hbefore₂, hgap₂, h⟩
  rcases h with _ | ⟨hbefore₃, hgap₃, h⟩
  cases h with
  | nil hend =>
      have h₀ := reads_placed_first expected 4 hgap hmodifier.opens
        (reads_readModifier rule hmodifier)
      have h₁ := reads_placed_further expected 4 0 hbefore₁ hgap₁ (hreturn.opens (by decide))
        (reads_readString hreturn)
      have h₂ := reads_placed_further expected 4 1 hbefore₂ hgap₂ (hname.opens (by decide))
        (reads_readString hname)
      have h₃ := reads_placed_further expected 4 2 hbefore₃ hgap₃ harguments.opens
        (reads_readArguments harguments)
      have hfields : Reads (fields rule) _ s :=
        h₀.bind (h₁.bind (h₂.bind (h₃.bind_nil (.pure s))))
      have hall : Reads (readerUnder rule) _ s := reads_readRecord_places expected hfields hend
      simpa using hall

/-- **Every written form of a signature** is read as the signature. -/
theorem reads_readerUnder (rule : Modifier.KeyRule) {s : Signature} {t : Text} (h : s.Spelled t) :
    Reads (readerUnder rule) t s := by
  cases h with
  | places hmodifier hreturn hname harguments hinner =>
      exact reads_fields rule hmodifier hreturn hname harguments hinner
  | members h hs => exact answers_readerUnder rule h hs

/-- **All written forms of a signature are decoded alike**, with any blanks around them. -/
theorem decode_eq_ok_of_spelled {s : Signature} {before t behind : Text} (h : s.Spelled t)
    (hbefore : IsPadding before) (hbehind : IsPadding behind) :
    decode reader (before ++ t ++ behind) = .ok s :=
  decode_padded (skipsPadding_readRecord _ _ _) (answers_ok.2 (reads_readerUnder .malformed h))
    hbefore hbehind

/-- An object for the modifier, escapes for letters, one argument as an object and one as an array,
and blanks of each kind. -/
theorem decode_eq_ok_of_mixed_forms :
    decode reader (['\t'] ++
      ("[\x7b\"public\" :null\r\n\x7d,\"\\u0061\",\"\\ud83d\\uDE00\",".toList ++
        "[\x7b\"x\":[-0,\x7b\x7d],\"n\\u0061me\": \"c\",\"type\":\"b\"\x7d,[\"d\",\"e\"]]]".toList)
        ++ ['\n']) =
      .ok ⟨some .publicAccess, "a".toList, "😀".toList,
        [⟨"b".toList, "c".toList⟩, ⟨"d".toList, "e".toList⟩]⟩ := by
  have hreturn : IsPadding ['\r', '\n'] := by simp [IsPadding, Json.isBlank]
  have hline : IsPadding ['\n'] := isPadding_newline 0
  have htab : IsPadding ['\t'] := by simp [IsPadding, Json.isBlank]
  have hmodifier : Modifier.publicAccess.Spelled "\x7b\"public\" :null\r\n\x7d".toList :=
    .inr (.object (.cons (spelledString_quoted _) isPadding_space isPadding_nil .null .nil)
      (.cons isPadding_nil (.nil hreturn)))
  have hunit : SpelledUnit (((0 * 16 + 0) * 16 + 6) * 16 + 1) "0061".toList :=
    .mk (by decide) (by decide) (by decide) (by decide)
  have hletter : SpelledChar 'a' "\\u0061".toList := .unit hunit
  have hhigh : SpelledUnit (((13 * 16 + 8) * 16 + 3) * 16 + 13) "d83d".toList :=
    .mk (by decide) (by decide) (by decide) (by decide)
  have hlow : SpelledUnit (((13 * 16 + 14) * 16 + 0) * 16 + 0) "DE00".toList :=
    .mk (by decide) (by decide) (by decide) (by decide)
  have hface : SpelledChar '😀' "\\ud83d\\uDE00".toList :=
    .pair (i := 0x3D) (j := 0x200) (by decide) (by decide) hhigh hlow (by decide)
  have hname : SpelledString "name".toList "\"n\\u0061me\"".toList :=
    .mk (.cons (spelledChar_escape 'n') (.cons hletter (spelledChars_flatMap_escape "me".toList)))
  have hentries : ∀ part ∈ ["-0".toList, "\x7b\x7d".toList], WellFormed part := by
    intro part hpart
    rcases List.mem_cons.1 hpart with rfl | hpart
    · exact .number (.negative (.mk .zero .none .none))
    · rw [List.mem_singleton.1 hpart]
      exact @WellFormed.object [] [] (by simp) (by simp) (.nil isPadding_nil)
  have hunknown : WellFormed "[-0,\x7b\x7d]".toList := .array hentries (listed_intercalate _)
  have hother : SpelledMember "x".toList WellFormed "\"x\":[-0,\x7b\x7d]".toList :=
    .mk (spelledString_quoted _) isPadding_nil isPadding_nil hunknown
  have hnamed : SpelledMember Argument.nameKey (SpelledString "c".toList)
      "\"n\\u0061me\": \"c\"".toList :=
    .mk hname isPadding_nil isPadding_space (spelledString_quoted _)
  have htyped : SpelledMember Argument.typeKey (SpelledString "b".toList) "\"type\":\"b\"".toList :=
    .mk (spelledString_quoted _) isPadding_nil isPadding_nil (spelledString_quoted _)
  have hparts : List.Forall₂ (fun m => SpelledMember (Argument.shape.key m) (Argument.shape.Holds m))
      [.other "x".toList (by decide), .name "c".toList, .type "b".toList]
      ["\"x\":[-0,\x7b\x7d]".toList, "\"n\\u0061me\": \"c\"".toList, "\"type\":\"b\"".toList] :=
    .cons hother (.cons hnamed (.cons htyped .nil))
  have hobject : Argument.Spelled ⟨"b".toList, "c".toList⟩
      "\x7b\"x\":[-0,\x7b\x7d],\"n\\u0061me\": \"c\",\"type\":\"b\"\x7d".toList :=
    .members (.mk hparts (listed_intercalate _))
      (.complete (by decide) (by decide) ⟨by simp, by simp⟩)
  have harray : Argument.Spelled ⟨"d".toList, "e".toList⟩ "[\"d\",\"e\"]".toList :=
    .places (spelledString_quoted _) (spelledString_quoted _) (listed_intercalate _)
  have harguments : SpelledList Argument.Spelled
      [⟨"b".toList, "c".toList⟩, ⟨"d".toList, "e".toList⟩]
      "[\x7b\"x\":[-0,\x7b\x7d],\"n\\u0061me\": \"c\",\"type\":\"b\"\x7d,[\"d\",\"e\"]]".toList :=
    .mk (.cons hobject (.cons harray .nil)) (listed_intercalate _)
  have hsignature : Signature.Spelled ⟨some .publicAccess, "a".toList, "😀".toList,
      [⟨"b".toList, "c".toList⟩, ⟨"d".toList, "e".toList⟩]⟩ _ :=
    .places hmodifier (.mk (.cons hletter .nil)) (.mk (.cons hface .nil)) harguments
      (listed_intercalate _)
  exact decode_eq_ok_of_spelled hsignature htab hline

end Declarator.Signature
