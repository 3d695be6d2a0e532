import Declarator.Json.Shape
import Declarator.Proofs.Json.Skipping
import Mathlib.Data.List.Induction
import Mathlib.Data.List.Nodup

/-!
# Objects of records are read by their members

What has been read so far is what the members read so far hold. So the reader of a record is right
about every object if it takes one more member rightly: one with a key that has occurred is refused,
and any other adds its value.

* `Shape.exists_outcome`: every object has an outcome.
* `Shape.IsField`: the members with one known key, and the value of that field among members.
* `Shape.ReadBy`: the reader of a record takes one more member rightly.
* `Shape.ReadBy.answers_readRecord`: **objects** are read as their outcome says.
* `Shape.DecodedBy`: the same of whole texts, what is said about those that are refused, and that
  order does not matter.
-/

namespace Declarator.Json

namespace Shape

variable {μ α σ : Type} {S : Shape μ α} {members front : List μ} {m : μ}

/-! ### The keys that occur -/

theorem keysOf_append (front members : List μ) :
    S.keysOf (front ++ members) = S.keysOf front ++ S.keysOf members := by
  simp [keysOf]

theorem mem_keysOf {key : Text} :
    key ∈ S.keysOf members ↔ key ∈ S.known ∧ ∃ m ∈ members, S.key m = key := by
  simp [keysOf, and_comm]

/-- A key that occurs once occurs nowhere before. -/
theorem key_not_mem_keysOf {behind : List μ} (h : (S.keysOf (front ++ m :: behind)).Nodup) :
    S.key m ∉ S.keysOf front := by
  intro hmem
  rw [keysOf_append, List.nodup_append] at h
  have hknown := (mem_keysOf.1 hmem).1
  exact h.2.2 _ hmem _ (mem_keysOf.2 ⟨hknown, m, List.mem_cons_self, rfl⟩) rfl

theorem keysOf_eq_map_asked (members : List μ) :
    S.keysOf members = (S.asked members).map S.key := by
  simp [keysOf, asked, List.filter_map, Function.comp_def]

theorem mem_asked (hknown : S.key m ∈ S.known) : m ∈ S.asked members ↔ m ∈ members := by
  simp [asked, hknown]

theorem nodup_keysOf_concat (hfront : (S.keysOf front).Nodup) (hm : S.key m ∉ S.keysOf front) :
    (S.keysOf (front ++ [m])).Nodup := by
  rw [keysOf_append, List.nodup_append]
  refine ⟨hfront, (List.nodup_singleton _).filter _, ?_⟩
  rintro key hkey _ hkey' rfl
  obtain ⟨-, n, hn, rfl⟩ := mem_keysOf.1 hkey'
  rw [List.mem_singleton.1 hn] at hkey
  exact hm hkey

/-- The first member with a key that has occurred. -/
theorem exists_again (h : ¬ (S.keysOf members).Nodup) :
    ∃ front m behind, members = front ++ m :: behind ∧ (S.keysOf front).Nodup ∧
      S.key m ∈ S.keysOf front := by
  induction members using List.reverseRecOn with
  | nil => exact absurd List.nodup_nil h
  | append_singleton members m ih =>
      by_cases hfront : (S.keysOf members).Nodup
      · by_cases hm : S.key m ∈ S.keysOf members
        · exact ⟨members, m, [], rfl, hfront, hm⟩
        · exact absurd (nodup_keysOf_concat hfront hm) h
      · obtain ⟨front, n, behind, rfl, hn⟩ := ih hfront
        exact ⟨front, n, behind ++ [m], by simp, hn⟩

/-- **Every object has an outcome**, as far as complete ones make a record. -/
theorem exists_outcome (hmade : (∀ key ∈ S.required, key ∈ S.keysOf members) →
    ∃ v, S.MadeOf v members) : ∃ x, S.Outcome members x := by
  by_cases honce : (S.keysOf members).Nodup
  · cases hfirst : S.required.find? (· ∉ S.keysOf members) with
    | none =>
        have hall : ∀ key ∈ S.required, key ∈ S.keysOf members := by
          simpa using List.find?_eq_none.1 hfirst
        obtain ⟨v, hv⟩ := hmade hall
        exact ⟨_, .complete honce hall hv⟩
    | some key => exact ⟨_, .missing honce hfirst⟩
  · obtain ⟨front, m, behind, hmembers, hfront, hagain⟩ := exists_again honce
    exact ⟨_, .repeated hmembers hfront hagain⟩

/-- **Order does not matter**, and neither do members that nobody asks for, as far as they do not
matter for what is made of the values. -/
theorem Outcome.ok_of_asked_perm {members' : List μ} {v : α} (hx : S.Outcome members (.ok v))
    (h : (S.asked members).Perm (S.asked members')) (hmade : S.MadeOf v members → S.MadeOf v members') :
    S.Outcome members' (.ok v) := by
  have hkeys : (S.keysOf members).Perm (S.keysOf members') := by
    rw [keysOf_eq_map_asked, keysOf_eq_map_asked]
    exact h.map S.key
  cases hx with
  | complete honce hall hv =>
      exact .complete (hkeys.nodup_iff.1 honce) (fun key hkey => hkeys.subset (hall key hkey))
        (hmade hv)

/-! ### Fields -/

/-- The members with a known key are the values of a field. -/
structure IsField {β : Type} (S : Shape μ α) (field? : μ → Option β) (make : β → μ) (key : Text) :
    Prop where
  known : key ∈ S.known
  value_iff : ∀ {m v}, field? m = some v ↔ m = make v
  key_iff : ∀ {m}, S.key m = key ↔ ∃ v, m = make v

namespace IsField

variable {β : Type} {field? : μ → Option β} {make : β → μ} {key : Text}

theorem isSome_findSome?_iff (h : S.IsField field? make key) :
    (members.findSome? field?).isSome = true ↔ key ∈ S.keysOf members := by
  rw [List.findSome?_isSome_iff, mem_keysOf]
  simp [h.known, h.key_iff, Option.isSome_iff_exists, h.value_iff]

theorem findSome?_eq_none (h : S.IsField field? make key) (hkey : key ∉ S.keysOf members) :
    members.findSome? field? = none := by
  rwa [← h.isSome_findSome?_iff, Option.not_isSome_iff_eq_none] at hkey

/-- A field that occurs once has the value that it is given there. -/
theorem findSome?_eq_some (h : S.IsField field? make key) (honce : (S.keysOf members).Nodup) {v : β}
    (hv : make v ∈ members) : members.findSome? field? = some v := by
  obtain ⟨front, behind, rfl⟩ := List.append_of_mem hv
  have hfront := key_not_mem_keysOf honce
  rw [h.key_iff.2 ⟨v, rfl⟩] at hfront
  rw [List.findSome?_append, h.findSome?_eq_none hfront, List.findSome?_cons, h.value_iff.2 rfl]
  rfl

theorem exists_mem (h : S.IsField field? make key) (hkey : key ∈ S.keysOf members) :
    ∃ v, make v ∈ members := by
  obtain ⟨-, m, hm, hmkey⟩ := mem_keysOf.1 hkey
  obtain ⟨v, rfl⟩ := h.key_iff.1 hmkey
  exact ⟨v, hm⟩

theorem mem_iff_of_asked_perm (h : S.IsField field? make key) {members' : List μ}
    (hperm : (S.asked members).Perm (S.asked members')) {v : β} :
    make v ∈ members ↔ make v ∈ members' := by
  have hknown : S.key (make v) ∈ S.known := by
    rw [h.key_iff.2 ⟨v, rfl⟩]
    exact h.known
  rw [← mem_asked hknown, hperm.mem_iff, mem_asked hknown]

/-- A field that occurs among the members that have been read is refused. -/
theorem refuses (h : S.IsField field? make key) {item : Reader β} (f : β → σ)
    (hkey : key ∈ S.keysOf front) (t : Text) :
    Answers (do
      let v ← once key (front.findSome? field?) item
      return f v) t (.error (.data (.duplicateField key))) :=
  (answers_once_again key item (h.isSome_findSome?_iff.2 hkey) t).bind_error

/-- A field that does not occur among them is taken. -/
theorem takes (h : S.IsField field? make key) {item : Reader β} (f : β → σ)
    (hkey : key ∉ S.keysOf front) (hskips : SkipsPadding item) {t before gap : Text} {v : β}
    (hread : Reads item t v) (hbefore : IsPadding before) (hgap : IsPadding gap) :
    Reads (do
      let v ← once key (front.findSome? field?) item
      return f v) (before ++ ':' :: (gap ++ t)) (f v) := by
  rw [h.findSome?_eq_none hkey]
  exact (reads_once key hskips hread hbefore hgap).bind_nil (.pure _)

end IsField

/-- A member that nobody asks for is passed over. -/
theorem passes_other {t before gap : Text} (a : σ) (h : WellFormed t) (hbefore : IsPadding before)
    (hgap : IsPadding gap) {rest : Text} (hrest : Stops rest) :
    (do ignored; return a : Reader σ) (before ++ ':' :: (gap ++ t) ++ rest) = .ok (a, rest) := by
  rw [bind_of_ok (h.passes_ignored hbefore hgap hrest)]
  rfl

/-! ### Reading -/

/-- A reader that has read some members holds `held` of them. It refuses one more member if its key
has occurred, and otherwise takes it; behind the last member it puts the record together. -/
structure ReadBy (S : Shape μ α) (visit : σ → Text → Reader σ) (finish : σ → Reader α)
    (held : List μ → σ) : Prop where
  refuses : ∀ {front m}, S.key m ∈ S.keysOf front → ∀ tail,
    Answers (visit (held front) (S.key m)) tail (.error (.data (.duplicateField (S.key m))))
  takes : ∀ {front m before gap part}, S.key m ∉ S.keysOf front → IsPadding before →
    IsPadding gap → S.Holds m part → ∀ rest, Stops rest →
      visit (held front) (S.key m) (before ++ ':' :: (gap ++ part) ++ rest) =
        .ok (held (front ++ [m]), rest)
  misses : ∀ {members key}, S.required.find? (· ∉ S.keysOf members) = some key →
    finish (held members) = throw (.data (.missingField key))
  makes : ∀ {members v}, (S.keysOf members).Nodup → S.MadeOf v members →
    finish (held members) = pure v

namespace ReadBy

variable {visit : σ → Text → Reader σ} {finish : σ → Reader α} {held : List μ → σ}
  {hv : ∀ (soFar : σ) (key : Text), Keeps (visit soFar key)} {parts : List Text}

/-- Members whose known keys are all different are taken, and what is behind them after them. -/
theorem gathers_append (h : ReadBy S visit finish held) {behind : List μ} {x : Except Problem σ}
    (hparts : List.Forall₂ (fun m => SpelledMember (S.key m) (S.Holds m)) (members ++ behind) parts)
    (honce : (S.keysOf (front ++ members)).Nodup)
    (hbehind : ∀ parts, List.Forall₂ (fun m => SpelledMember (S.key m) (S.Holds m)) behind parts →
      Gathers visit (held (front ++ members)) parts x) :
    Gathers visit (held front) parts x := by
  induction members generalizing front parts with
  | nil =>
      rw [List.append_nil] at hbehind
      exact hbehind parts hparts
  | cons m members ih =>
      cases hparts with
      | cons hm hparts =>
          cases hm with
          | mk hkey hbefore hgap hpart =>
              have hnew := key_not_mem_keysOf honce
              rw [List.append_cons] at honce hbehind
              exact .cons hkey (h.takes hnew hbefore hgap hpart) (ih hparts honce hbehind)

theorem gathers_of_nodup (h : ReadBy S visit finish held)
    (hparts : List.Forall₂ (fun m => SpelledMember (S.key m) (S.Holds m)) members parts)
    (honce : (S.keysOf members).Nodup) :
    Gathers visit (held []) parts (.ok (held members)) := by
  rw [← List.append_nil members] at hparts
  refine h.gathers_append hparts honce fun parts hnone => ?_
  cases hnone
  exact .nil _

/-- Behind a member whose key has occurred nothing is looked at. -/
theorem gathers_of_again (h : ReadBy S visit finish held) {behind : List μ}
    (hparts : List.Forall₂ (fun m => SpelledMember (S.key m) (S.Holds m))
      (front ++ m :: behind) parts)
    (honce : (S.keysOf front).Nodup) (hagain : S.key m ∈ S.keysOf front) :
    Gathers visit (held []) parts (.error (.data (.duplicateField (S.key m)))) := by
  refine h.gathers_append hparts honce fun parts hrest => ?_
  cases hrest with
  | cons hm _ =>
      cases hm with
      | mk hkey _ _ _ => exact .stop _ hkey (h.refuses hagain _)

/-- **The object of a record** is read as its outcome says. -/
theorem answers_readRecord (h : ReadBy S visit finish held) (expected : Text) (fields : Reader α)
    {t : Text} (ht : S.Spelled members t) {x : Except Problem α} (hx : S.Outcome members x) :
    Answers (readRecord expected fields (do
      let d ← fun s => readMembers visit hv true (held []) s
      finish d)) t x := by
  cases ht with
  | mk hparts hinner =>
      refine Json.answers_readRecord ?_
      cases hx with
      | repeated hmembers hfront hagain =>
          subst hmembers
          exact (answers_readMembers (h.gathers_of_again hparts hfront hagain) hinner).bind_error
      | missing honce hfirst =>
          refine .bind_ok (answers_readMembers (h.gathers_of_nodup hparts honce) hinner) ?_
          rw [h.misses hfirst]
          exact answers_throw _ []
      | @complete v honce hall hmade =>
          refine .bind_ok (answers_readMembers (h.gathers_of_nodup hparts honce) hinner) ?_
          rw [h.makes honce hmade]
          exact Reads.pure v

end ReadBy

/-! ### Decoding -/

/-- What is asked of the reader of a kind of records: an object is decoded as its outcome says, so a
record is what its members make it, whatever their order and whatever stands among them. What is
said about a repeated key and about a missing one names the key. -/
structure DecodedBy (S : Shape μ α) (item : Reader α) : Prop where
  outcome : ∀ {members before t behind}, S.Spelled members t → IsPadding before →
    IsPadding behind → ∀ x, decode item (before ++ t ++ behind) = x ↔ S.Outcome members x
  says_repeated : ∀ {front m further before t behind}, S.Spelled (front ++ m :: further) t →
    IsPadding before → IsPadding behind → (S.keysOf front).Nodup → S.key m ∈ S.keysOf front →
      ∃ cause, decode item (before ++ t ++ behind) = .error (.data cause) ∧
        cause.message = "duplicate field \x60".toList ++ S.key m ++ "\x60".toList
  says_missing : ∀ {members key before t behind}, S.Spelled members t → IsPadding before →
    IsPadding behind → (S.keysOf members).Nodup →
      S.required.find? (· ∉ S.keysOf members) = some key →
        ∃ cause, decode item (before ++ t ++ behind) = .error (.data cause) ∧
          cause.message = "missing field \x60".toList ++ key ++ "\x60".toList
  order : ∀ {members members' before before' t t' behind behind'}, S.Spelled members t →
    S.Spelled members' t' → IsPadding before → IsPadding before' → IsPadding behind →
      IsPadding behind' → (S.asked members).Perm (S.asked members') →
        ∀ v, decode item (before ++ t ++ behind) = .ok v ↔
          decode item (before' ++ t' ++ behind') = .ok v

theorem decodedBy {item : Reader α} (hskips : SkipsPadding item)
    (hitem : ∀ {members t x}, S.Spelled members t → S.Outcome members x → Answers item t x)
    (hexists : ∀ {members}, (∀ key ∈ S.required, key ∈ S.keysOf members) → ∃ v, S.MadeOf v members)
    (hmade : ∀ {members members' v}, (S.asked members).Perm (S.asked members') →
      S.MadeOf v members → S.MadeOf v members') : S.DecodedBy item := by
  have houtcome {members : List μ} {before t behind : Text} (ht : S.Spelled members t)
      (hbefore : IsPadding before) (hbehind : IsPadding behind) (x : Except Problem α) :
      decode item (before ++ t ++ behind) = x ↔ S.Outcome members x := by
    constructor
    · rintro rfl
      obtain ⟨x, hx⟩ := S.exists_outcome hexists
      rwa [decode_padded hskips (hitem ht hx) hbefore hbehind]
    · intro hx
      exact decode_padded hskips (hitem ht hx) hbefore hbehind
  refine ⟨houtcome, ?_, ?_, ?_⟩
  · intro front m further before t behind ht hbefore hbehind hfront hagain
    exact ⟨.duplicateField (S.key m),
      (houtcome ht hbefore hbehind _).2 (.repeated rfl hfront hagain), rfl⟩
  · intro members key before t behind ht hbefore hbehind honce hfirst
    exact ⟨.missingField key, (houtcome ht hbefore hbehind _).2 (.missing honce hfirst), rfl⟩
  · intro members members' before before' t t' behind behind' ht ht' hbefore hbefore' hbehind
      hbehind' hperm v
    rw [houtcome ht hbefore hbehind, houtcome ht' hbefore' hbehind']
    constructor
    · intro hx
      exact hx.ok_of_asked_perm hperm (hmade hperm)
    · intro hx
      exact hx.ok_of_asked_perm hperm.symm (hmade hperm.symm)

end Shape

end Declarator.Json
