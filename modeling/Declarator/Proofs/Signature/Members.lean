import Declarator.Proofs.Signature.Argument

/-!
# Objects of signatures are decoded by their members

What has been read of the object of a signature is, for each field, the value of the first member
with its key. So neither the order of the members nor the members that nobody asks for change what
is read.

* `Signature.readBy`: the members of a signature are taken rightly.
* `Signature.decodedBy_reader`: **objects of signatures and of arguments.**
-/

namespace Declarator

open Json

namespace Signature

namespace Member

def modifier? : Member → Option (Option Modifier)
  | .modifier m => some m
  | _ => none

def returnType? : Member → Option Text
  | .returnType t => some t
  | _ => none

def methodName? : Member → Option Text
  | .methodName t => some t
  | _ => none

def arguments? : Member → Option (List Argument)
  | .arguments as => some as
  | _ => none

end Member

theorem isField_modifier : shape.IsField Member.modifier? .modifier modifierKey where
  known := by decide
  value_iff := by
    intro m v
    cases m <;> simp [Member.modifier?]
  key_iff := by
    intro m
    cases m with
    | other key hkey =>
        simp only [List.mem_cons, not_or] at hkey
        simpa [shape, Member.key] using hkey.1
    | _ => simp [shape, Member.key] <;> decide

theorem isField_returnType : shape.IsField Member.returnType? .returnType returnTypeKey where
  known := by decide
  value_iff := by
    intro m v
    cases m <;> simp [Member.returnType?]
  key_iff := by
    intro m
    cases m with
    | other key hkey =>
        simp only [List.mem_cons, not_or] at hkey
        simpa [shape, Member.key] using hkey.2.1
    | _ => simp [shape, Member.key] <;> decide

theorem isField_methodName : shape.IsField Member.methodName? .methodName methodNameKey where
  known := by decide
  value_iff := by
    intro m v
    cases m <;> simp [Member.methodName?]
  key_iff := by
    intro m
    cases m with
    | other key hkey =>
        simp only [List.mem_cons, not_or] at hkey
        simpa [shape, Member.key] using hkey.2.2.1
    | _ => simp [shape, Member.key] <;> decide

theorem isField_arguments : shape.IsField Member.arguments? .arguments argumentsKey where
  known := by decide
  value_iff := by
    intro m v
    cases m <;> simp [Member.arguments?]
  key_iff := by
    intro m
    cases m with
    | other key hkey =>
        simp only [List.mem_cons, not_or] at hkey
        simpa [shape, Member.key] using hkey.2.2.2.1
    | _ => simp [shape, Member.key] <;> decide

/-- What the members that have been read hold. -/
def heldIn (members : List Member) : Draft :=
  ⟨members.findSome? Member.modifier?, members.findSome? Member.returnType?,
    members.findSome? Member.methodName?, members.findSome? Member.arguments?⟩

section Visit

variable (rule : Modifier.KeyRule) (d : Draft)

theorem visit_modifier : d.visit rule modifierKey = do
    let modifier ← once modifierKey d.modifier (readModifier rule)
    return { d with modifier := some modifier } :=
  if_pos rfl

theorem visit_returnType : d.visit rule returnTypeKey = do
    let returnType ← once returnTypeKey d.returnType readString
    return { d with returnType := some returnType } := by
  rw [Draft.visit, if_neg (by decide), if_pos rfl]

theorem visit_methodName : d.visit rule methodNameKey = do
    let methodName ← once methodNameKey d.methodName readString
    return { d with methodName := some methodName } := by
  rw [Draft.visit, if_neg (by decide), if_neg (by decide), if_pos rfl]

theorem visit_arguments : d.visit rule argumentsKey = do
    let arguments ← once argumentsKey d.arguments readArguments
    return { d with arguments := some arguments } := by
  rw [Draft.visit, if_neg (by decide), if_neg (by decide), if_neg (by decide), if_pos rfl]

theorem visit_other {key : Text}
    (hkey : key ∉ [modifierKey, returnTypeKey, methodNameKey, argumentsKey]) :
    d.visit rule key = do ignored; return d := by
  simp only [List.mem_cons, not_or] at hkey
  rw [Draft.visit, if_neg hkey.1, if_neg hkey.2.1, if_neg hkey.2.2.1, if_neg hkey.2.2.2.1]

end Visit

/-- **The members of a signature** are taken rightly. -/
theorem readBy (rule : Modifier.KeyRule) :
    shape.ReadBy (Draft.visit rule) Draft.finish heldIn where
  refuses := by
    intro front m hm tail
    cases m with
    | modifier m =>
        show Answers ((heldIn front).visit rule modifierKey) tail _
        rw [visit_modifier]
        exact isField_modifier.refuses _ hm tail
    | returnType t =>
        show Answers ((heldIn front).visit rule returnTypeKey) tail _
        rw [visit_returnType]
        exact isField_returnType.refuses _ hm tail
    | methodName t =>
        show Answers ((heldIn front).visit rule methodNameKey) tail _
        rw [visit_methodName]
        exact isField_methodName.refuses _ hm tail
    | arguments as =>
        show Answers ((heldIn front).visit rule argumentsKey) tail _
        rw [visit_arguments]
        exact isField_arguments.refuses _ hm tail
    | other key hkey => exact absurd (Shape.mem_keysOf.1 hm).1 hkey
  takes := by
    intro front m before gap part hm hbefore hgap hpart rest hrest
    cases m with
    | modifier m =>
        have hheld : heldIn (front ++ [.modifier m]) = { heldIn front with modifier := some m } := by
          simp [heldIn, isField_modifier.findSome?_eq_none hm, Member.modifier?, Member.returnType?,
            Member.methodName?, Member.arguments?]
        show (heldIn front).visit rule modifierKey _ = _
        rw [hheld, visit_modifier]
        exact isField_modifier.takes _ hm (skipsPadding_readOptional _) (reads_readModifier rule hpart)
          hbefore hgap rest
    | returnType t =>
        have hheld : heldIn (front ++ [.returnType t]) =
            { heldIn front with returnType := some t } := by
          simp [heldIn, isField_returnType.findSome?_eq_none hm, Member.modifier?,
            Member.returnType?, Member.methodName?, Member.arguments?]
        show (heldIn front).visit rule returnTypeKey _ = _
        rw [hheld, visit_returnType]
        exact isField_returnType.takes _ hm skipsPadding_readString (reads_readString hpart) hbefore
          hgap rest
    | methodName t =>
        have hheld : heldIn (front ++ [.methodName t]) =
            { heldIn front with methodName := some t } := by
          simp [heldIn, isField_methodName.findSome?_eq_none hm, Member.modifier?,
            Member.returnType?, Member.methodName?, Member.arguments?]
        show (heldIn front).visit rule methodNameKey _ = _
        rw [hheld, visit_methodName]
        exact isField_methodName.takes _ hm skipsPadding_readString (reads_readString hpart) hbefore
          hgap rest
    | arguments as =>
        have hheld : heldIn (front ++ [.arguments as]) =
            { heldIn front with arguments := some as } := by
          simp [heldIn, isField_arguments.findSome?_eq_none hm, Member.modifier?,
            Member.returnType?, Member.methodName?, Member.arguments?]
        show (heldIn front).visit rule argumentsKey _ = _
        rw [hheld, visit_arguments]
        exact isField_arguments.takes _ hm (skipsPadding_readList _ _) (reads_readArguments hpart)
          hbefore hgap rest
    | other key hkey =>
        have hheld : heldIn (front ++ [.other key hkey]) = heldIn front := by
          simp [heldIn, Member.modifier?, Member.returnType?, Member.methodName?, Member.arguments?]
        show (heldIn front).visit rule key _ = _
        rw [hheld, visit_other _ _ hkey]
        exact Shape.passes_other _ hpart hbefore hgap hrest
  misses := by
    intro members key hkey
    change [returnTypeKey, methodNameKey, argumentsKey].find? (· ∉ shape.keysOf members) = some key
      at hkey
    simp only [List.find?_cons, ← isField_returnType.isSome_findSome?_iff,
      ← isField_methodName.isSome_findSome?_iff, ← isField_arguments.isSome_findSome?_iff] at hkey
    rw [Draft.finish, heldIn]
    cases hreturn : members.findSome? Member.returnType? with
    | none =>
        obtain rfl : returnTypeKey = key := by simpa [hreturn] using hkey
        rfl
    | some returnType =>
        cases hname : members.findSome? Member.methodName? with
        | none =>
            obtain rfl : methodNameKey = key := by simpa [hreturn, hname] using hkey
            rfl
        | some methodName =>
            cases harguments : members.findSome? Member.arguments? with
            | none =>
                obtain rfl : argumentsKey = key := by
                  simpa [hreturn, hname, harguments] using hkey
                rfl
            | some arguments => simp [hreturn, hname, harguments] at hkey
  makes := by
    intro members s honce hs
    obtain ⟨hmodifier, hreturn, hname, harguments⟩ := hs
    have hmodifier : (members.findSome? Member.modifier?).getD none = s.modifier := by
      rcases hmodifier with hmem | ⟨hnone, hs⟩
      · rw [isField_modifier.findSome?_eq_some honce hmem]
        rfl
      · have hkey : modifierKey ∉ shape.keysOf members :=
          fun hmem => hnone (List.mem_map.2 (Shape.mem_keysOf.1 hmem).2)
        rw [isField_modifier.findSome?_eq_none hkey, hs]
        rfl
    rw [Draft.finish, heldIn, isField_returnType.findSome?_eq_some honce hreturn,
      isField_methodName.findSome?_eq_some honce hname,
      isField_arguments.findSome?_eq_some honce harguments]
    simp only [hmodifier]

theorem exists_madeOf {members : List Member}
    (hall : ∀ key ∈ shape.required, key ∈ shape.keysOf members) :
    ∃ s, shape.MadeOf s members := by
  obtain ⟨returnType, hreturn⟩ := isField_returnType.exists_mem (hall returnTypeKey (by decide))
  obtain ⟨methodName, hname⟩ := isField_methodName.exists_mem (hall methodNameKey (by decide))
  obtain ⟨arguments, harguments⟩ := isField_arguments.exists_mem (hall argumentsKey (by decide))
  by_cases hmodifier : modifierKey ∈ members.map Member.key
  · obtain ⟨m, hm, hkey⟩ := List.mem_map.1 hmodifier
    obtain ⟨modifier, rfl⟩ := isField_modifier.key_iff.1 hkey
    exact ⟨⟨modifier, returnType, methodName, arguments⟩, .inl hm, hreturn, hname, harguments⟩
  · exact ⟨⟨none, returnType, methodName, arguments⟩, .inr ⟨hmodifier, rfl⟩, hreturn, hname,
      harguments⟩

theorem madeOf_of_asked_perm {members members' : List Member} {s : Signature}
    (h : (shape.asked members).Perm (shape.asked members')) (hs : shape.MadeOf s members) :
    shape.MadeOf s members' := by
  obtain ⟨hmodifier, hreturn, hname, harguments⟩ := hs
  refine ⟨?_, (isField_returnType.mem_iff_of_asked_perm h).1 hreturn,
    (isField_methodName.mem_iff_of_asked_perm h).1 hname,
    (isField_arguments.mem_iff_of_asked_perm h).1 harguments⟩
  rcases hmodifier with hmem | ⟨hnone, hs⟩
  · exact .inl ((isField_modifier.mem_iff_of_asked_perm h).1 hmem)
  · refine .inr ⟨fun hmem => hnone ?_, hs⟩
    obtain ⟨m, hm, hkey⟩ := List.mem_map.1 hmem
    obtain ⟨modifier, rfl⟩ := isField_modifier.key_iff.1 hkey
    exact List.mem_map.2 ⟨_, (isField_modifier.mem_iff_of_asked_perm h).2 hm, rfl⟩

/-- An object is read as its outcome says. -/
theorem answers_readerUnder (rule : Modifier.KeyRule) {members : List Member} {t : Text}
    {x : Except Problem Signature} (ht : shape.Spelled members t) (hx : shape.Outcome members x) :
    Answers (readerUnder rule) t x :=
  (readBy rule).answers_readRecord expected (fields rule) ht hx

/-- **Objects of signatures and of arguments** are decoded as their members say: a repeated key is
refused first, then a missing one, each with a message that names it, and otherwise the members make
the record, whatever their order and whatever members stand among them that nobody asks for. -/
theorem decodedBy_reader : shape.DecodedBy reader ∧ Argument.shape.DecodedBy Argument.reader :=
  ⟨Shape.decodedBy (skipsPadding_readRecord _ _ _) (answers_readerUnder .malformed)
      exists_madeOf madeOf_of_asked_perm,
    Shape.decodedBy (skipsPadding_readRecord _ _ _) Argument.answers_reader Argument.exists_madeOf
      Argument.madeOf_of_asked_perm⟩

/-- A null counts as a modifier, and an unknown member may occur again and hold anything. -/
theorem decodedBy_reader_of_null_before_modifier :
    decode reader (['\n'] ++
      ("\x7b\"x\":\x7b\"arguments\":[1e999]\x7d,\"x\":\"\\ud800\",".toList ++
        "\"access_modifier\":null,\"access_modifier\":\"public\"\x7d".toList) ++ ['\n']) =
      .error (.data (.duplicateField modifierKey)) ∧
    (Cause.duplicateField modifierKey).message =
      "duplicate field \x60access_modifier\x60".toList := by
  have hline : IsPadding ['\n'] := isPadding_newline 0
  have hdigits : IsDigits "999".toList := by decide
  have hone : IsDigits "1".toList := by decide
  have hnumber : WellFormed "1e999".toList :=
    .number (.positive (.mk (.digits hone (by decide)) .none (.unsigned (.inl rfl) hdigits)))
  have hlist : WellFormed "[1e999]".toList :=
    .array (List.forall_mem_singleton.2 hnumber) (listed_intercalate _)
  have hlabel : IsLabel "\"arguments\":".toList :=
    .mk (spelledString_quoted "arguments".toList).isString isPadding_nil isPadding_nil
  have hobject : WellFormed "\x7b\"arguments\":[1e999]\x7d".toList := by
    have hinner := listed_intercalate ["\"arguments\":[1e999]".toList]
    exact @WellFormed.object [("\"arguments\":".toList, "[1e999]".toList)] _
      (List.forall_mem_singleton.2 hlabel) (List.forall_mem_singleton.2 hlist) hinner
  have hunit : SpelledUnit (((13 * 16 + 8) * 16 + 0) * 16 + 0) "d800".toList :=
    .mk (by decide) (by decide) (by decide) (by decide)
  have hsurrogate : WellFormed "\"\\ud800\"".toList := .string (.mk (.unit hunit .nil))
  have hpublic : SpelledModifier (some .publicAccess) "\"public\"".toList :=
    .inl (.string (spelledString_quoted _))
  have hparts : List.Forall₂ (fun m => SpelledMember (shape.key m) (shape.Holds m))
      [.other "x".toList (by decide), .other "x".toList (by decide), .modifier none,
        .modifier (some .publicAccess)]
      ["\"x\":\x7b\"arguments\":[1e999]\x7d".toList, "\"x\":\"\\ud800\"".toList,
        "\"access_modifier\":null".toList, "\"access_modifier\":\"public\"".toList] :=
    .cons (.mk (spelledString_quoted _) isPadding_nil isPadding_nil hobject)
      (.cons (.mk (spelledString_quoted _) isPadding_nil isPadding_nil hsurrogate)
        (.cons (.mk (spelledString_quoted _) isPadding_nil isPadding_nil .null)
          (.cons (.mk (spelledString_quoted _) isPadding_nil isPadding_nil hpublic) .nil)))
  have hspelled : shape.Spelled ([.other "x".toList (by decide), .other "x".toList (by decide),
      .modifier none] ++ .modifier (some .publicAccess) :: []) _ :=
    .mk hparts (listed_intercalate _)
  have houtcome : shape.Outcome ([.other "x".toList (by decide), .other "x".toList (by decide),
      .modifier none] ++ .modifier (some .publicAccess) :: [])
      (.error (.data (.duplicateField modifierKey))) := .repeated rfl (by decide) (by decide)
  obtain ⟨cause, hcause, hmessage⟩ :=
    decodedBy_reader.1.says_repeated hspelled hline hline (by decide) (by decide)
  have hrefused := (decodedBy_reader.1.outcome hspelled hline hline _).2 houtcome
  cases hrefused.symm.trans hcause
  exact ⟨hrefused, hmessage⟩

end Signature

end Declarator
