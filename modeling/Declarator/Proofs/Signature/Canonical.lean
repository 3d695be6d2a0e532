import Declarator.Proofs.Signature.RoundTrip

/-!
# The canonical form tells signatures apart

Not every canonical form is read back, so signatures are told apart by it in another way: from the
left, word by word. No word of a header holds an opening parenthesis and no word of an argument
holds a space, so the first of these ends the word, whatever commas it has at its end.

* `eq_of_furtherArguments_eq`, `eq_of_canonicalArguments_eq`: the arguments.
* `IsWellFormed.eq_of_canonical_eq`: well-formed signatures.
* `eq_of_canonical_eq_of_parse_eq_ok`: **signatures that are read.**
-/

namespace Declarator.Signature

open Text

/-! ### Arguments -/

/-- What stands behind an argument: nothing behind the last, and otherwise a separator and the other
arguments. -/
def furtherArguments : List Argument → Text
  | [] => []
  | a :: as => separator ++ canonicalArguments (a :: as)

theorem canonicalArguments_cons (a : Argument) (as : List Argument) :
    canonicalArguments (a :: as) = a.type ++ ' ' :: (a.name ++ furtherArguments as) := by
  cases as with
  | nil => simp [canonicalArguments, furtherArguments, Argument.canonical]
  | cons b as =>
      rw [canonicalArguments, List.map_cons, List.map_cons, joined_cons_cons, ← List.map_cons,
        furtherArguments, canonicalArguments, Argument.canonical]
      simp

/-- The name of an argument ends in front of the next space, but for the comma of the separator. -/
theorem eq_of_append_furtherArguments_eq {u v : Text} {as bs : List Argument} (hu : ' ' ∉ u)
    (hv : ' ' ∉ v) (h : u ++ furtherArguments as = v ++ furtherArguments bs) :
    u = v ∧ furtherArguments as = furtherArguments bs := by
  have hspace (a : Argument) (as : List Argument) : ' ' ∈ furtherArguments (a :: as) := by
    simp [furtherArguments, separator]
  have hcut (w : Text) (a : Argument) (as : List Argument) :
      w ++ furtherArguments (a :: as) = (w ++ [',']) ++ ' ' :: canonicalArguments (a :: as) := by
    simp [furtherArguments, separator]
  have hcomma {w : Text} (hw : ' ' ∉ w) : ' ' ∉ w ++ [','] := by
    simpa using hw
  cases as with
  | nil =>
      cases bs with
      | nil => exact ⟨List.append_cancel_right h, rfl⟩
      | cons b bs =>
          rw [furtherArguments, List.append_nil] at h
          exact absurd (h ▸ List.mem_append_right v (hspace b bs)) hu
  | cons a as =>
      cases bs with
      | nil =>
          rw [furtherArguments, List.append_nil] at h
          exact absurd (h ▸ List.mem_append_right u (hspace a as)) hv
      | cons b bs =>
          rw [hcut, hcut] at h
          obtain ⟨hword, hrest⟩ := eq_of_append_cons_eq (hcomma hu) (hcomma hv) h
          exact ⟨List.append_cancel_right hword, by rw [furtherArguments, furtherArguments, hrest]⟩

/-- **The arguments are told apart**, the first by its type and name and the others after it. -/
theorem eq_of_furtherArguments_eq {as bs : List Argument}
    (has : ∀ a ∈ as, IsWord ')' a.type ∧ IsWord ')' a.name)
    (hbs : ∀ b ∈ bs, IsWord ')' b.type ∧ IsWord ')' b.name)
    (h : furtherArguments as = furtherArguments bs) : as = bs := by
  induction as generalizing bs with
  | nil =>
      cases bs with
      | nil => rfl
      | cons b bs => simp [furtherArguments, separator] at h
  | cons a as ih =>
      cases bs with
      | nil => simp [furtherArguments, separator] at h
      | cons b bs =>
          obtain ⟨⟨hatype, haname⟩, has⟩ := List.forall_mem_cons.1 has
          obtain ⟨⟨hbtype, hbname⟩, hbs⟩ := List.forall_mem_cons.1 hbs
          have hall := List.append_cancel_left h
          rw [canonicalArguments_cons, canonicalArguments_cons] at hall
          obtain ⟨htype, hrest⟩ :=
            eq_of_append_cons_eq hatype.space_not_mem hbtype.space_not_mem hall
          obtain ⟨hname, hrest⟩ :=
            eq_of_append_furtherArguments_eq haname.space_not_mem hbname.space_not_mem hrest
          have hfirst : a = b := by
            cases a
            cases b
            simp_all
          rw [hfirst, ih has hbs hrest]

theorem eq_of_canonicalArguments_eq {as bs : List Argument}
    (has : ∀ a ∈ as, IsWord ')' a.type ∧ IsWord ')' a.name)
    (hbs : ∀ b ∈ bs, IsWord ')' b.type ∧ IsWord ')' b.name)
    (h : canonicalArguments as = canonicalArguments bs) : as = bs := by
  have hne (a : Argument) (as : List Argument) : canonicalArguments (a :: as) ≠ [] := by
    simp [canonicalArguments_cons]
  apply eq_of_furtherArguments_eq has hbs
  cases as with
  | nil =>
      cases bs with
      | nil => rfl
      | cons b bs => exact absurd h.symm (hne b bs)
  | cons a as =>
      cases bs with
      | nil => exact absurd h (hne a as)
      | cons b bs => rw [furtherArguments, furtherArguments, h]

/-! ### Signatures -/

/-- **Well-formed signatures** with the same canonical form are the same. -/
theorem IsWellFormed.eq_of_canonical_eq {s t : Signature} (hs : IsWellFormed s)
    (ht : IsWellFormed t) (h : s.canonical = t.canonical) : s = t := by
  obtain ⟨hswords, hsopen⟩ := writtenHeader_iff.1 (writtenHeader_canonicalHeader hs)
  obtain ⟨htwords, htopen⟩ := writtenHeader_iff.1 (writtenHeader_canonicalHeader ht)
  rw [canonical, canonical, List.append_assoc, List.append_assoc] at h
  obtain ⟨hheader, hlist⟩ := eq_of_append_cons_eq hsopen htopen h
  have harguments := eq_of_canonicalArguments_eq hs.arguments ht.arguments
    (List.append_cancel_right hlist)
  -- The same header has the same words, and these are told apart in one way only.
  rw [hheader, htwords] at hswords
  obtain ⟨hmodifier, hreturn, hname⟩ := Header.mk.inj (Except.ok.inj hswords)
  cases s
  cases t
  simp_all

/-- **Signatures that are read are told apart by their canonical form**, also those that are not
read back from it. -/
theorem eq_of_canonical_eq_of_parse_eq_ok {a b : Text} {s t : Signature} (ha : parse a = .ok s)
    (hb : parse b = .ok t) (h : s.canonical = t.canonical) : s = t :=
  (isWellFormed_of_parse_eq_ok ha).eq_of_canonical_eq (isWellFormed_of_parse_eq_ok hb) h

/-- The form is not read back, as the commas at the ends of the types would be separators. -/
theorem eq_of_canonical_eq_of_commas_at_types :
    ∃ s t, parse "public a b(c,,\td, e,\r(f)".toList = .ok s ∧
      parse " public\u3000a  b( c,,\u3000d, e,\t(f )".toList = .ok t ∧
      s.canonical = t.canonical ∧ parse s.canonical ≠ .ok s ∧ s = t := by
  have ha : parse "public a b(c,,\td, e,\r(f)".toList =
      .ok ⟨some .publicAccess, ['a'], ['b'], [⟨"c,,".toList, ['d']⟩,
        ⟨"e,".toList, "(f".toList⟩]⟩ := by
    decide +kernel
  have hb : parse " public\u3000a  b( c,,\u3000d, e,\t(f )".toList =
      .ok ⟨some .publicAccess, ['a'], ['b'], [⟨"c,,".toList, ['d']⟩,
        ⟨"e,".toList, "(f".toList⟩]⟩ := by
    decide +kernel
  exact ⟨_, _, ha, hb, rfl, by decide +kernel, eq_of_canonical_eq_of_parse_eq_ok ha hb rfl⟩

/-- Signatures that no text has can share a form: here the modifier is a word of the return type. -/
example : (Signature.mk none "public a".toList ['b'] []).canonical =
    (Signature.mk (some .publicAccess) ['a'] ['b'] []).canonical := by
  decide

end Declarator.Signature
