import Declarator.Proofs.Json.Denotation
import Declarator.Proofs.Json.Shape
import Declarator.Signature.Spelling

/-!
# Written forms of modifiers and arguments are read

What has been read of the object of an argument is, for each field, the value of the first member
with its key.

* `Modifier.readsAs_readerUnder`, `Modifier.readsAs_readerUnder_object`: the two forms of a
  modifier.
* `Argument.readBy`: the members of an argument are taken rightly.
* `Argument.reads_reader`: **all written forms of an argument** are read.
* `Signature.reads_readModifier`, `Signature.reads_readArguments`: fields of a signature.
-/

namespace Declarator

open Json

/-! ### Modifiers -/

namespace Modifier

theorem reads_named (m : Modifier) : Reads (named m.keyword) [] m := by
  rw [named, ofKeyword?_keyword]
  exact .pure m

/-- A keyword is read as its modifier. -/
theorem readsAs_readerUnder (rule : KeyRule) (m : Modifier) :
    ReadsAs (readerUnder rule) m.toJson m := by
  intro t h rest
  rw [toJson] at h
  cases h with
  | string h =>
      have hm := (reads_readString h).bind_nil (reads_named m) rest
      cases h with
      | mk h =>
          rw [List.cons_append, List.cons_append] at hm ⊢
          rw [readerUnder, skipBlanks_cons (by decide)]
          exact hm

/-- The keyword may stand in an object, in front of null. -/
theorem readsAs_readerUnder_object (rule : KeyRule) (m : Modifier) :
    ReadsAs (readerUnder rule) (.object [(m.keyword, .null)]) m := by
  intro t h
  cases h with
  | object hparts hinner =>
      cases hparts with
      | @cons _ keyText before left part _ _ parts hkey hbefore hleft hpart hparts =>
          cases hparts
          cases hinner with
          | @cons _ gap _ rest hgap hrest =>
              cases hrest with
              | nil hend =>
                  have hread : Reads (readStringOr rule.problem) (gap ++ keyText) m.keyword :=
                    (skipsPadding_readStringOr _).reads (reads_readStringOr _ hkey) hgap
                  have hname : Reads (readStringOr rule.problem >>= named) (gap ++ keyText) m :=
                    hread.bind_nil m.reads_named
                  have hcolon : Reads colon (before ++ [':']) () :=
                    reads_mark_padded (by decide) hbefore
                  have hnull : Reads readNull (left ++ part) () :=
                    skipsPadding_readNull.reads (readsAs_readNull hpart) hleft
                  have hclose : Reads (mark '}') (rest ++ ['}']) () :=
                    reads_mark_padded (by decide) hend
                  have hall : Reads (keyed rule) _ m :=
                    hname.bind (hcolon.bind (hnull.bind (hclose.bind_nil (.pure m))))
                  intro behind
                  have := hall behind
                  rw [List.cons_append, List.cons_append, readerUnder, skipBlanks_cons (by decide)]
                  simpa using this

end Modifier

namespace Signature

theorem reads_readModifier (rule : Modifier.KeyRule) {m : Option Modifier} {t : Text}
    (h : SpelledModifier m t) : Reads (readModifier rule) t m := by
  cases m with
  | none => exact readsAs_readOptional_null _ h
  | some m =>
      rcases h with h | h
      · exact readsAs_readOptional_some Json.noConfusion (m.readsAs_readerUnder rule) h
      · exact readsAs_readOptional_some Json.noConfusion (m.readsAs_readerUnder_object rule) h

theorem SpelledModifier.opens {m : Option Modifier} {t : Text} (h : SpelledModifier m t) :
    Opens ']' t := by
  cases m with
  | none => exact Json.Spelled.opens h
  | some m => rcases h with h | h <;> exact h.opens

end Signature

/-! ### Arguments -/

namespace Argument

namespace Member

def type? : Member → Option Text
  | .type t => some t
  | _ => none

def name? : Member → Option Text
  | .name t => some t
  | _ => none

end Member

theorem isField_type : shape.IsField Member.type? .type typeKey where
  known := by decide
  value_iff := by
    intro m v
    cases m <;> simp [Member.type?]
  key_iff := by
    intro m
    cases m with
    | other key hkey =>
        simp only [List.mem_cons, not_or] at hkey
        simpa [shape, Member.key] using hkey.1
    | _ => simp [shape, Member.key] <;> decide

theorem isField_name : shape.IsField Member.name? .name nameKey where
  known := by decide
  value_iff := by
    intro m v
    cases m <;> simp [Member.name?]
  key_iff := by
    intro m
    cases m with
    | other key hkey =>
        simp only [List.mem_cons, not_or] at hkey
        simpa [shape, Member.key] using hkey.2.1
    | _ => simp [shape, Member.key] <;> decide

/-- What the members that have been read hold. -/
def heldIn (members : List Member) : Draft :=
  ⟨members.findSome? Member.type?, members.findSome? Member.name?⟩

section Visit

variable (d : Draft)

theorem visit_type : d.visit typeKey = do
    let type ← once typeKey d.type readString
    return { d with type := some type } :=
  if_pos rfl

theorem visit_name : d.visit nameKey = do
    let name ← once nameKey d.name readString
    return { d with name := some name } := by
  rw [Draft.visit, if_neg (by decide), if_pos rfl]

theorem visit_other {key : Text} (hkey : key ∉ [typeKey, nameKey]) :
    d.visit key = do ignored; return d := by
  simp only [List.mem_cons, not_or] at hkey
  rw [Draft.visit, if_neg hkey.1, if_neg hkey.2.1]

end Visit

/-- **The members of an argument** are taken rightly. -/
theorem readBy : shape.ReadBy Draft.visit Draft.finish heldIn where
  refuses := by
    intro front m hm tail
    cases m with
    | type t =>
        show Answers ((heldIn front).visit typeKey) tail _
        rw [visit_type]
        exact isField_type.refuses _ hm tail
    | name t =>
        show Answers ((heldIn front).visit nameKey) tail _
        rw [visit_name]
        exact isField_name.refuses _ hm tail
    | other key hkey => exact absurd (Shape.mem_keysOf.1 hm).1 hkey
  takes := by
    intro front m before gap part hm hbefore hgap hpart rest hrest
    cases m with
    | type t =>
        have hheld : heldIn (front ++ [.type t]) = { heldIn front with type := some t } := by
          simp [heldIn, isField_type.findSome?_eq_none hm, Member.type?, Member.name?]
        show (heldIn front).visit typeKey _ = _
        rw [hheld, visit_type]
        exact isField_type.takes _ hm skipsPadding_readString (reads_readString hpart) hbefore hgap
          rest
    | name t =>
        have hheld : heldIn (front ++ [.name t]) = { heldIn front with name := some t } := by
          simp [heldIn, isField_name.findSome?_eq_none hm, Member.type?, Member.name?]
        show (heldIn front).visit nameKey _ = _
        rw [hheld, visit_name]
        exact isField_name.takes _ hm skipsPadding_readString (reads_readString hpart) hbefore hgap
          rest
    | other key hkey =>
        have hheld : heldIn (front ++ [.other key hkey]) = heldIn front := by
          simp [heldIn, Member.type?, Member.name?]
        show (heldIn front).visit key _ = _
        rw [hheld, visit_other _ hkey]
        exact Shape.passes_other _ hpart hbefore hgap hrest
  misses := by
    intro members key hkey
    change [typeKey, nameKey].find? (· ∉ shape.keysOf members) = some key at hkey
    simp only [List.find?_cons, ← isField_type.isSome_findSome?_iff,
      ← isField_name.isSome_findSome?_iff] at hkey
    rw [Draft.finish, heldIn]
    cases htype : members.findSome? Member.type? with
    | none =>
        obtain rfl : typeKey = key := by simpa [htype] using hkey
        rfl
    | some type =>
        cases hname : members.findSome? Member.name? with
        | none =>
            obtain rfl : nameKey = key := by simpa [htype, hname] using hkey
            rfl
        | some name => simp [htype, hname] at hkey
  makes := by
    intro members v honce hv
    obtain ⟨htype, hname⟩ := hv
    rw [Draft.finish, heldIn, isField_type.findSome?_eq_some honce htype,
      isField_name.findSome?_eq_some honce hname]

theorem exists_madeOf {members : List Member}
    (hall : ∀ key ∈ shape.required, key ∈ shape.keysOf members) :
    ∃ a, shape.MadeOf a members := by
  obtain ⟨type, htype⟩ := isField_type.exists_mem (hall typeKey (by decide))
  obtain ⟨name, hname⟩ := isField_name.exists_mem (hall nameKey (by decide))
  exact ⟨⟨type, name⟩, htype, hname⟩

theorem madeOf_of_asked_perm {members members' : List Member} {a : Argument}
    (h : (shape.asked members).Perm (shape.asked members')) (ha : shape.MadeOf a members) :
    shape.MadeOf a members' := by
  obtain ⟨htype, hname⟩ := ha
  exact ⟨(isField_type.mem_iff_of_asked_perm h).1 htype,
    (isField_name.mem_iff_of_asked_perm h).1 hname⟩

/-- An object is read as its outcome says. -/
theorem answers_reader {members : List Member} {t : Text} {x : Except Problem Argument}
    (ht : shape.Spelled members t) (hx : shape.Outcome members x) : Answers reader t x :=
  readBy.answers_readRecord expected fields ht hx

theorem reads_fields {a : Argument} {typeText nameText inner : Text}
    (htype : SpelledString a.type typeText) (hname : SpelledString a.name nameText)
    (hinner : Listed [typeText, nameText] inner) : Reads reader ('[' :: inner ++ [']']) a := by
  cases hinner with
  | cons hgap hfurther =>
      cases hfurther with
      | cons hbefore hgap' hend =>
          cases hend with
          | nil hend =>
              have htype := reads_placed_first expected 2 hgap (htype.opens (by decide))
                (reads_readString htype)
              have hname := reads_placed_further expected 2 0 hbefore hgap' (hname.opens (by decide))
                (reads_readString hname)
              have hfields : Reads fields _ a := htype.bind (hname.bind_nil (.pure a))
              have hall : Reads reader _ a := reads_readRecord_places expected hfields hend
              simpa using hall

/-- **Every written form of an argument** is read as the argument. -/
theorem reads_reader {a : Argument} {t : Text} (h : a.Spelled t) : Reads reader t a := by
  cases h with
  | places htype hname hinner => exact reads_fields htype hname hinner
  | members h ha => exact answers_reader h ha

theorem Spelled.opens {a : Argument} {t : Text} (h : a.Spelled t) : Opens ']' t := by
  cases h with
  | places _ _ _ => exact ⟨'[', _, rfl, by decide, by decide⟩
  | members h _ =>
      cases h with
      | mk _ _ => exact ⟨'{', _, rfl, by decide, by decide⟩

end Argument

/-! ### Lists of arguments -/

theorem Json.reads_spelledList {α : Type} {item : Reader α} {hi : Shrinks item}
    {Holds : α → Text → Prop} (hitem : ∀ {v t}, Holds v t → Opens ']' t ∧ Reads item t v)
    {vs : List α} {t : Text} (h : SpelledList Holds vs t) : Reads (readList item hi) t vs := by
  cases h with
  | mk hparts hinner =>
      have hitems : ReadsItems item _ vs := (hparts.imp fun _ _ h => hitem h).flip
      exact reads_readList hitems hinner

theorem Json.SpelledList.opens {α : Type} {Holds : α → Text → Prop} {vs : List α} {t : Text}
    (h : SpelledList Holds vs t) : Opens ']' t := by
  cases h with
  | mk _ _ => exact ⟨'[', _, rfl, by decide, by decide⟩

theorem Signature.reads_readArguments {arguments : List Argument} {t : Text}
    (h : SpelledList Argument.Spelled arguments t) : Reads readArguments t arguments :=
  reads_spelledList (fun h => ⟨h.opens, Argument.reads_reader h⟩) h

end Declarator
