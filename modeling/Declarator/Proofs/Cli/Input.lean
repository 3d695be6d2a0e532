import Declarator.Cli.Grammar
import Declarator.Cli.Run

/-!
# Reading input

Bytes are cut at line feeds before they are decoded. As no other character has the byte of a line
feed or of a carriage return in its encoding, the lines of an encoded text are the encoded lines.

* `Line.split_append_feed`: the first line of bytes.
* `read?_encode_of_written`: the lines of a text.
* `exists_writtenLines`: every text consists of lines.
* `read?_eq_some_iff`: what is read line by line is UTF-8 as a whole.
* `Given.outcome_eq`: the signatures that a run reads.
* `Spread.given`: signatures one a line, among blank lines.
-/

namespace Declarator

/-! ### Bytes of ASCII characters -/

namespace Utf8

@[simp] theorem encode_nil : encode [] = [] := rfl

@[simp] theorem encode_append (s t : Text) : encode (s ++ t) = encode s ++ encode t := by
  simp [encode]

theorem encode_cons (c : Char) (t : Text) :
    encode (c :: t) = String.utf8EncodeChar c ++ encode t := by
  simp [encode]

theorem le_toNat_of_mem {c : Char} (hc : 0x80 ≤ c.toNat) {b : UInt8}
    (h : b ∈ String.utf8EncodeChar c) : 0x80 ≤ b.toNat := by
  have hc' : ¬ c.val.toNat ≤ 0x7F := by
    rw [Char.toNat] at hc
    omega
  rw [String.utf8EncodeChar, if_neg hc'] at h
  split at h
  · simp only [List.mem_cons, List.not_mem_nil, or_false] at h
    rcases h with rfl | rfl <;> (rw [UInt8.toNat_ofNat']; omega)
  split at h
  · simp only [List.mem_cons, List.not_mem_nil, or_false] at h
    rcases h with rfl | rfl | rfl <;> (rw [UInt8.toNat_ofNat']; omega)
  · simp only [List.mem_cons, List.not_mem_nil, or_false] at h
    rcases h with rfl | rfl | rfl | rfl <;> (rw [UInt8.toNat_ofNat']; omega)

/-- A byte of an ASCII character is in the encoding of no other character. -/
theorem toNat_eq_of_mem {c : Char} {b : UInt8} (hb : b.toNat < 0x80)
    (h : b ∈ String.utf8EncodeChar c) : c.toNat = b.toNat := by
  by_cases hc : 0x80 ≤ c.toNat
  · have := le_toNat_of_mem hc h
    omega
  · have hle : c.val.toNat ≤ 0x7F := by
      rw [Char.toNat] at hc
      omega
    rw [String.utf8EncodeChar, if_pos hle, List.mem_singleton] at h
    rw [h, UInt8.toNat_ofNat', Char.toNat]
    omega

theorem eq_of_mem_utf8EncodeChar {c d : Char} {b : UInt8} (hb : b.toNat < 0x80)
    (hd : d.toNat = b.toNat) (h : b ∈ String.utf8EncodeChar c) : c = d :=
  Char.toNat_inj.1 ((toNat_eq_of_mem hb h).trans hd.symm)

end Utf8

namespace Line

open Utf8

theorem feed_mem_encode_iff {t : Text} : feed ∈ encode t ↔ '\n' ∈ t := by
  constructor
  · intro h
    obtain ⟨c, hc, hfeed⟩ := List.mem_flatMap.1 h
    exact eq_of_mem_utf8EncodeChar (d := '\n') (by decide) (by decide) hfeed ▸ hc
  · intro h
    exact List.mem_flatMap.2 ⟨'\n', h, by decide⟩

theorem feed_not_mem_encode {t : Text} (h : '\n' ∉ t) : feed ∉ encode t :=
  mt feed_mem_encode_iff.1 h

theorem encode_feed (t : Text) : encode ('\n' :: t) = feed :: encode t :=
  encode_cons '\n' t

theorem encode_returnFeed (t : Text) :
    encode ('\r' :: '\n' :: t) = carriageReturn :: feed :: encode t := by
  rw [encode_cons, encode_feed]
  rfl

theorem getLast?_encode_eq_return_iff {t : Text} :
    (encode t).getLast? = some carriageReturn ↔ t.getLast? = some '\r' := by
  rcases List.eq_nil_or_concat t with rfl | ⟨s, c, rfl⟩
  · simp
  · rw [List.concat_eq_append, encode_append, List.getLast?_append, List.getLast?_concat]
    constructor
    · intro hlast
      have hchar : (encode [c]).getLast? = some carriageReturn := by
        cases hc : (encode [c]).getLast? with
        | none => simp [encode] at hc
        | some b => rwa [hc] at hlast
      have hmem : carriageReturn ∈ String.utf8EncodeChar c := by
        simpa [encode] using List.mem_of_getLast? hchar
      exact congrArg some (eq_of_mem_utf8EncodeChar (by decide) (by decide) hmem)
    · intro hc
      cases hc
      rfl

/-! ### Lines of bytes -/

theorem dropReturn_encode {t : Text} (h : t.getLast? ≠ some '\r') :
    dropReturn (encode t) = encode t := by
  rw [dropReturn, if_neg (mt getLast?_encode_eq_return_iff.1 h)]

theorem dropReturn_append_return (bytes : List UInt8) :
    dropReturn (bytes ++ [carriageReturn]) = bytes := by
  rw [dropReturn, if_pos (List.getLast?_concat ..), List.dropLast_concat]

/-- A carriage return is dropped, or there is none. -/
theorem dropReturn_cases (line : List UInt8) :
    line = dropReturn line ++ [carriageReturn] ∨
      line.getLast? ≠ some carriageReturn ∧ dropReturn line = line := by
  by_cases h : line.getLast? = some carriageReturn
  · obtain ⟨bytes, rfl⟩ := List.getLast?_eq_some_iff.1 h
    exact .inl (by rw [dropReturn_append_return])
  · exact .inr ⟨h, if_neg h⟩

theorem splitOnP_feed {line : List UInt8} (h : feed ∉ line) :
    line.splitOnP (· == feed) = [line] := by
  refine List.splitOnP_eq_singleton fun b hb => ?_
  rw [beq_eq_false_iff_ne]
  rintro rfl
  exact h hb

/-- The first line of bytes is what stands before the first line feed. -/
theorem split_append_feed {line : List UInt8} (h : feed ∉ line) (rest : List UInt8) :
    split (line ++ feed :: rest) = dropReturn line :: split rest := by
  have hcut : (line ++ feed :: rest).splitOnP (· == feed) =
      line :: rest.splitOnP (· == feed) := by
    rw [List.splitOnP_append_cons line rest (by simp), splitOnP_feed h, List.singleton_append]
  obtain ⟨part, parts, hrest⟩ := List.exists_cons_of_ne_nil (List.splitOnP_ne_nil (· == feed) rest)
  rw [split, split, hcut, hrest]
  simp only [List.dropLast_cons_cons, List.map_cons, List.getLast?_cons_cons]
  split <;> simp_all

theorem split_of_not_mem {line : List UInt8} (hne : line ≠ []) (h : feed ∉ line) :
    split line = [line] := by
  obtain ⟨b, bytes, rfl⟩ := List.exists_cons_of_ne_nil hne
  rw [split, splitOnP_feed h]
  rfl

theorem read?_append_feed {line : List UInt8} (h : feed ∉ line) (rest : List UInt8) :
    read? (line ++ feed :: rest) = (do
      let first ← decode? (dropReturn line)
      let lines ← read? rest
      return first :: lines) := by
  rw [read?, split_append_feed h, List.mapM_cons]
  rfl

end Line

namespace Cli

open Line Utf8

/-! ### Lines of a text -/

/-- **The lines of a text** are read from its bytes. -/
theorem read?_encode_of_written {lines : List Text} {text : Text} (h : WrittenLines lines text) :
    read? (encode text) = some lines := by
  induction h with
  | nil => rfl
  | @unended line hne hfeed =>
      have hbytes : encode line ≠ [] := by
        obtain ⟨c, t, rfl⟩ := List.exists_cons_of_ne_nil hne
        simp [encode_cons]
      rw [read?, split_of_not_mem hbytes (feed_not_mem_encode hfeed), List.mapM_cons,
        decode?_encode, List.mapM_nil]
      rfl
  | @feed line text lines hfeed hreturn _ ih =>
      rw [encode_append, encode_feed, read?_append_feed (feed_not_mem_encode hfeed),
        dropReturn_encode hreturn, decode?_encode, ih]
      rfl
  | @returnFeed line text lines hfeed _ ih =>
      have hbytes : Line.feed ∉ encode line ++ [carriageReturn] := by
        rw [List.mem_append, not_or]
        exact ⟨feed_not_mem_encode hfeed, by decide⟩
      rw [encode_append, encode_returnFeed, List.append_cons, read?_append_feed hbytes,
        dropReturn_append_return, decode?_encode, ih]
      rfl

/-- What stands before a line end is a line, or a line and a carriage return. -/
theorem exists_writtenLines_append {line ending text : Text} {lines : List Text}
    (hfeed : '\n' ∉ line) (hend : LineEnd ending) (hs : WrittenLines lines text) :
    ∃ first, (first = line ∨ line = first ++ ['\r']) ∧
      WrittenLines (first :: lines) (line ++ ending ++ text) := by
  cases hend with
  | returnFeed => exact ⟨line, .inl rfl, by simpa using WrittenLines.returnFeed hfeed hs⟩
  | feed =>
      by_cases hreturn : line.getLast? = some '\r'
      · obtain ⟨first, rfl⟩ := List.getLast?_eq_some_iff.1 hreturn
        have hfirst : '\n' ∉ first := fun hmem => hfeed (List.mem_append_left _ hmem)
        exact ⟨first, .inr rfl, by simpa using WrittenLines.returnFeed hfirst hs⟩
      · exact ⟨line, .inl rfl, by simpa using WrittenLines.feed hfeed hreturn hs⟩

/-- **Every text consists of lines.** -/
theorem exists_writtenLines (text : Text) : ∃ lines, WrittenLines lines text := by
  induction hn : text.length using Nat.strongRecOn generalizing text with
  | ind n ih =>
      by_cases hmem : '\n' ∈ text
      · obtain ⟨line, rest, rfl, hline⟩ := List.eq_append_cons_of_mem hmem
        have hlt : rest.length < n := by
          rw [← hn, List.length_append, List.length_cons]
          omega
        obtain ⟨lines, hs⟩ := ih rest.length hlt rest rfl
        obtain ⟨first, -, hfirst⟩ := exists_writtenLines_append hline .feed hs
        exact ⟨first :: lines, by simpa using hfirst⟩
      · by_cases hne : text = []
        · exact ⟨[], hne ▸ .nil⟩
        · exact ⟨[text], .unended hne hmem⟩

/-- Bytes that are read line by line hold a text of these lines. -/
theorem exists_written_of_read? {bytes : List UInt8} {lines : List Text}
    (h : read? bytes = some lines) : ∃ text, bytes = encode text ∧ WrittenLines lines text := by
  induction hn : bytes.length using Nat.strongRecOn generalizing bytes lines with
  | ind n ih =>
      by_cases hmem : Line.feed ∈ bytes
      · obtain ⟨line, rest, rfl, hline⟩ := List.eq_append_cons_of_mem hmem
        have hlt : rest.length < n := by
          rw [← hn, List.length_append, List.length_cons]
          omega
        obtain ⟨first, hfirst, more, hmore, rfl⟩ : ∃ first, decode? (dropReturn line) = some first ∧
            ∃ more, read? rest = some more ∧ first :: more = lines := by
          simpa [read?_append_feed hline, Option.bind_eq_some_iff] using h
        obtain ⟨text, rfl, hwritten⟩ := ih rest.length hlt hmore rfl
        have hdrop : dropReturn line = encode first := decode?_eq_some_iff.1 hfirst
        -- A carriage return before the line feed belongs to the line end.
        rcases dropReturn_cases line with hreturn | ⟨hreturn, heq⟩
        · have hfeed : '\n' ∉ first := by
            rw [← feed_mem_encode_iff, ← hdrop]
            exact fun hmem => hline (hreturn ▸ List.mem_append_left _ hmem)
          refine ⟨first ++ '\r' :: '\n' :: text, ?_, .returnFeed hfeed hwritten⟩
          rw [hreturn, hdrop, encode_append, encode_returnFeed, List.append_assoc,
            List.singleton_append]
        · rw [← heq, hdrop] at hline hreturn
          refine ⟨first ++ '\n' :: text, ?_, .feed ?_ ?_ hwritten⟩
          · rw [encode_append, encode_feed, ← hdrop, heq]
          · exact mt feed_mem_encode_iff.2 hline
          · exact mt getLast?_encode_eq_return_iff.2 hreturn
      · by_cases hne : bytes = []
        · subst hne
          cases h
          exact ⟨[], rfl, .nil⟩
        · obtain ⟨line, hline, rfl⟩ : ∃ line, decode? bytes = some line ∧ [line] = lines := by
            simpa [read?, split_of_not_mem hne hmem, Option.bind_eq_some_iff] using h
          obtain rfl := decode?_eq_some_iff.1 hline
          refine ⟨line, rfl, .unended ?_ (mt feed_mem_encode_iff.2 hmem)⟩
          rintro rfl
          exact hne rfl

/-- **Reading line by line** finds the lines of the text that the bytes hold. -/
theorem read?_eq_some_iff {bytes : List UInt8} {lines : List Text} :
    read? bytes = some lines ↔ ∃ text, bytes = encode text ∧ WrittenLines lines text := by
  constructor
  · exact exists_written_of_read?
  · rintro ⟨text, rfl, h⟩
    exact read?_encode_of_written h

/-! ### Signatures on input -/

/-- **The signatures that a run reads** are those that it is given. -/
theorem Given.outcome_eq {operands signatures : List Text} {input : List UInt8}
    (h : Given operands input signatures) (flags : List Flag) :
    Options.outcome ⟨flags, operands⟩ input =
      batch (Options.form ⟨flags, operands⟩) (Options.threshold ⟨flags, operands⟩) signatures := by
  cases h with
  | arguments hne _ =>
      rw [Options.outcome, if_neg]
      simpa using hne
  | @input lines text h =>
      have hread : inputTexts? (encode text) = some (lines.filter (!Text.isAllBlank ·)) := by
        rw [inputTexts?, read?_encode_of_written h, Option.map_some]
      rw [Options.outcome, hread]
      rfl

/-- A run is given signatures, unless there are none among its arguments and its input is not
UTF-8. -/
theorem exists_given_or_unreadable (operands : List Text) (input : List UInt8) :
    (∃ texts, Given operands input texts) ∨
      operands = [] ∧ decode? input = none ∧
        ∀ flags, Options.outcome ⟨flags, operands⟩ input = unreadable := by
  by_cases hne : operands = []
  · subst hne
    cases hdecode : decode? input with
    | some text =>
        obtain rfl := decode?_eq_some_iff.1 hdecode
        obtain ⟨lines, hlines⟩ := exists_writtenLines text
        exact .inl ⟨_, .input hlines⟩
    | none =>
        refine .inr ⟨rfl, rfl, fun flags => ?_⟩
        have hread : read? input = none := by
          refine Option.eq_none_iff_forall_ne_some.2 fun lines hlines => ?_
          obtain ⟨text, rfl, -⟩ := read?_eq_some_iff.1 hlines
          rw [decode?_encode] at hdecode
          cases hdecode
        rw [Options.outcome, inputTexts?, hread]
        rfl
  · exact .inl ⟨operands, .arguments hne input⟩

theorem IsEntry.ne_nil {signature : Text} (h : IsEntry signature) : signature ≠ [] := by
  rintro rfl
  cases h.not_blank

theorem isAllBlank_of_append {s t : Text} (h : Text.isAllBlank (s ++ t) = true) :
    Text.isAllBlank s = true := by
  rw [Text.isAllBlank, List.all_append, Bool.and_eq_true] at h
  exact h.1

/-- Signatures that stand one a line are the lines that are not blank. -/
theorem Spread.exists_writtenLines {signatures : List Text} {text : Text}
    (h : Spread signatures text) :
    ∃ lines, WrittenLines lines text ∧ lines.filter (!Text.isAllBlank ·) = signatures := by
  induction h with
  | @blank gap hgap hfeed =>
      by_cases hne : gap = []
      · exact ⟨[], hne ▸ .nil, rfl⟩
      · exact ⟨[gap], .unended hne hfeed, by simp [hgap]⟩
  | @last signature h =>
      exact ⟨[signature], .unended h.ne_nil h.feed_not_mem, by simp [h.not_blank]⟩
  | @blankLine gap ending text signatures hgap hfeed hend _ ih =>
      obtain ⟨lines, hlines, hfilter⟩ := ih
      obtain ⟨first, hfirst, hwritten⟩ := exists_writtenLines_append hfeed hend hlines
      have hblank : Text.isAllBlank first = true := by
        rcases hfirst with rfl | rfl
        · exact hgap
        · exact isAllBlank_of_append hgap
      exact ⟨first :: lines, hwritten, by simp [hblank, hfilter]⟩
  | @line signature ending text signatures h hend _ ih =>
      obtain ⟨lines, hlines, hfilter⟩ := ih
      obtain ⟨first, hfirst, hwritten⟩ := exists_writtenLines_append h.feed_not_mem hend hlines
      have heq : first = signature := by
        rcases hfirst with heq | heq
        · exact heq
        · exact absurd (by simp [heq]) h.getLast?_ne_return
      subst heq
      exact ⟨first :: lines, hwritten, by simp [h.not_blank, hfilter]⟩

theorem Spread.given {signatures : List Text} {text : Text} (h : Spread signatures text) :
    Given [] (encode text) signatures := by
  obtain ⟨lines, hlines, rfl⟩ := h.exists_writtenLines
  exact .input hlines

end Cli

end Declarator
