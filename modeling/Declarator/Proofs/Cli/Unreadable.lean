import Declarator.Proofs.Cli.Run
import Declarator.Proofs.Text.Quoted

/-!
# Input that is not UTF-8

All lines of input are read before the first signature is. So input that is not UTF-8 makes a run
fail as a whole, and what the run says then is said in no other case.

* `stderr_batch_cases`: how the log of a batch begins.
* `not_unreadableHead_prefix_batch`: a batch never says that its input is unreadable.
* `run_eq_unreadable`, `run_eq_run_of_operands`: runs without and with signatures as arguments.
* `run_of_unreadable_input`: **a run whose input is not UTF-8**.
-/

namespace Declarator.Cli

open Log Signature

/-- The first line of what is said where input is not UTF-8, without its end. -/
def unreadableHead : Text :=
  "Error: failed to read signatures from stdin".toList

/-- What a batch says is nothing, or begins with a record, or is the number of refusals alone. -/
theorem stderr_batch_cases (form : Form) (t : Threshold) (texts : List Text) :
    (batch form t texts).stderr = [] ∨ (∃ rest, (batch form t texts).stderr = '[' :: rest) ∨
      ∃ m n, (batch form t texts).stderr = summary m n := by
  rw [batch_eq]
  dsimp only
  cases passed t (texts.flatMap events) with
  | nil =>
      rw [written_nil, List.nil_append, closing]
      split
      · exact .inr (.inr ⟨_, _, rfl⟩)
      · exact .inl rfl
  | cons r records => exact .inr (.inl ⟨_, rfl⟩)

/-- Behind the colon of a summary there is a digit. -/
theorem exists_summary_eq (m n : Nat) :
    ∃ k < 10, ∃ rest, summary m n = "Error: ".toList ++ Nat.digitChar k :: rest := by
  obtain ⟨c, digits, hdigits⟩ := List.exists_cons_of_ne_nil (Nat.toDigits_ne_nil (b := 10) (n := m))
  obtain ⟨k, hk, rfl⟩ : ∃ k < 10, c = Nat.digitChar k :=
    Text.exists_of_mem_toDigits (by decide) (hdigits ▸ List.mem_cons_self)
  refine ⟨k, hk, digits ++ (" of ".toList
    ++ (Nat.toDigits 10 n ++ " signatures failed to parse\n".toList)), ?_⟩
  unfold summary
  simp only [hdigits, List.append_assoc, List.cons_append]

/-- A batch never says that its input is unreadable. -/
theorem not_unreadableHead_prefix_batch (form : Form) (t : Threshold) (texts : List Text) :
    ¬ unreadableHead <+: (batch form t texts).stderr := by
  have hhead : unreadableHead =
      "Error: ".toList ++ 'f' :: "ailed to read signatures from stdin".toList := by decide
  have hfront : unreadableHead =
      'E' :: "rror: failed to read signatures from stdin".toList := by decide
  have hdigit : ∀ i : Fin 10, 'f' ≠ Nat.digitChar i := by decide
  rcases stderr_batch_cases form t texts with h | ⟨rest, h⟩ | ⟨m, n, h⟩
  · rw [h, hfront, List.prefix_nil]
    exact List.cons_ne_nil _ _
  · rw [h, hfront, List.cons_prefix_cons]
    exact fun hprefix => absurd hprefix.1 (by decide)
  · obtain ⟨k, hk, rest, hsummary⟩ := exists_summary_eq m n
    rw [h, hsummary, hhead, List.prefix_append_right_inj, List.cons_prefix_cons]
    exact fun hprefix => hdigit ⟨k, hk⟩ hprefix.1

/-- Input that holds texts is UTF-8, so without arguments nothing is read. -/
theorem run_eq_unreadable {flags : List Flag} {arguments : List Text} {input : List UInt8}
    (h : WrittenArguments flags [] arguments)
    (htake : Options.initial.takeAll flags = .ok ⟨flags, []⟩) (hnone : Utf8.decode? input = none) :
    run arguments input = unreadable := by
  rw [run_eq_outcome_of_taken h htake]
  rcases exists_given_or_unreadable [] input with ⟨texts, hgiven⟩ | ⟨-, -, houtcome⟩
  · cases hgiven with
    | arguments hne _ => exact absurd rfl hne
    | input _ =>
        rw [Utf8.decode?_encode] at hnone
        cases hnone
  · exact houtcome flags

/-- With signatures among the arguments input does not matter, whatever the flags ask for. -/
theorem run_eq_run_of_operands {flags : List Flag} {operands arguments : List Text}
    (h : WrittenArguments flags operands arguments) (hne : operands ≠ [])
    (input input' : List UInt8) : run arguments input = run arguments input' := by
  apply Request.outcome_of_not_readsInput
  rcases readArguments_of_written h with ⟨-, hread⟩ | ⟨r, -, hread, hr⟩
  · rw [hread, Request.readsInput]
    simpa using hne
  · rw [hread]
    exact Request.readsInput_of_ne_read hr

/-- **Input that is not UTF-8.** A run without signatures among its arguments reads all of its
input before anything else. If that is not UTF-8, the run prints nothing, logs nothing, says why
and fails, whatever signatures there are on other lines; if it is, the run never says so. With
signatures among the arguments input does not matter. -/
theorem run_of_unreadable_input {flags : List Flag} {arguments : List Text}
    (h : WrittenArguments flags [] arguments) (hflags : Options.AreSettings flags)
    (input : List UInt8) :
    (¬ input.toByteArray.IsValidUTF8 →
        run arguments input =
          { code := 1
            stdout := []
            stderr :=
              "Error: failed to read signatures from stdin\n\nCaused by:\n".toList
                ++ "    stream did not contain valid UTF-8\n".toList }) ∧
      (input.toByteArray.IsValidUTF8 → ¬ unreadableHead <+: (run arguments input).stderr) ∧
      ∀ {flags' : List Flag} {operands arguments' : List Text},
        WrittenArguments flags' operands arguments' → operands ≠ [] →
          ∀ input', run arguments' input = run arguments' input' := by
  have htake := hflags.takeAll_eq
  refine ⟨fun hinvalid => ?_, fun hvalid => ?_, fun h' hne input' => ?_⟩
  · rw [run_eq_unreadable h htake (Utf8.decode?_eq_none_iff.2 hinvalid)]
    decide +kernel
  · rcases exists_given_or_unreadable [] input with ⟨texts, hgiven⟩ | ⟨-, hnone, -⟩
    · rw [run_eq_batch h htake hgiven]
      exact not_unreadableHead_prefix_batch _ _ texts
    · exact absurd hvalid (Utf8.decode?_eq_none_iff.1 hnone)
  · exact run_eq_run_of_operands h' hne input input'

-- The byte that is not UTF-8 stands on a line of its own, between two signatures.
theorem run_of_unreadable_input_between_signatures :
    run ["-v".toList, "--json".toList]
        (Utf8.encode "a b()\n ".toList ++ 0xFF :: Utf8.encode "\nc d()".toList) =
      { code := 1
        stdout := []
        stderr :=
          "Error: failed to read signatures from stdin\n\nCaused by:\n".toList
            ++ "    stream did not contain valid UTF-8\n".toList } ∧
      ¬ unreadableHead <+:
        (run ["-v".toList, "--json".toList] (Utf8.encode "a\nc d()".toList)).stderr ∧
      run ["-v".toList, "a b".toList] [0xFF] = run ["-v".toList, "a b".toList] [] := by
  have hverbose : WrittenFlags [.verbose] "-v".toList := .letters (by decide) (by decide)
  have hoptions : WrittenArguments [.verbose, .json] [] ["-v".toList, "--json".toList] :=
    .flags hverbose (.flags (.name .json) .nil)
  have hsettings : Options.AreSettings [.verbose, .json] := ⟨by decide, by decide⟩
  have harguments : WrittenArguments [.verbose] ["a b".toList] ["-v".toList, "a b".toList] :=
    .flags hverbose (.operand (by decide) .nil)
  have hinvalid : Utf8.decode?
      (Utf8.encode "a b()\n ".toList ++ 0xFF :: Utf8.encode "\nc d()".toList) = none := by
    decide +kernel
  have hvalid : (Utf8.encode "a\nc d()".toList).toByteArray.IsValidUTF8 := ⟨_, rfl⟩
  exact ⟨(run_of_unreadable_input hoptions hsettings _).1 (Utf8.decode?_eq_none_iff.1 hinvalid),
    (run_of_unreadable_input hoptions hsettings _).2.1 hvalid,
    (run_of_unreadable_input hoptions hsettings [0xFF]).2.2 harguments (by decide) []⟩

end Declarator.Cli
