import Declarator.Proofs.Cli.Arguments
import Declarator.Proofs.Cli.Batch
import Declarator.Proofs.Cli.Input

/-!
# Runs

A run is its flags and the signatures that it is given. It does not matter where the flags stand,
nor whether the signatures are arguments or lines of input.

* `run_eq_batch`: a run whose flags are taken reads the signatures that it is given.
* `run_with_default_log`: **a run without requests for a more detailed log**.
* `run_append_signatures`: **signatures as arguments and as lines** are the same run.
-/

namespace Declarator.Cli

open Log Signature

/-! ### What a run reads -/

/-- A run whose flags are taken does what it is asked for. -/
theorem run_eq_outcome_of_taken {flags : List Flag} {operands arguments : List Text}
    (h : WrittenArguments flags operands arguments)
    (htake : Options.initial.takeAll flags = .ok ⟨flags, []⟩) (input : List UInt8) :
    run arguments input = Options.outcome ⟨flags, operands⟩ input := by
  rcases readArguments_of_written h with ⟨-, hread⟩ | ⟨r, herr, -⟩
  · rw [run, hread, Request.outcome]
  · rw [htake] at herr
    cases herr

/-- A run whose flags are taken reads the signatures that it is given. -/
theorem run_eq_batch {flags : List Flag} {operands signatures arguments : List Text}
    {input : List UInt8} (h : WrittenArguments flags operands arguments)
    (htake : Options.initial.takeAll flags = .ok ⟨flags, []⟩)
    (hgiven : Given operands input signatures) :
    run arguments input =
      batch (Options.form ⟨flags, operands⟩) (Options.threshold ⟨flags, operands⟩) signatures :=
  (run_eq_outcome_of_taken h htake input).trans (hgiven.outcome_eq flags)

theorem Request.readsInput_of_ne_read {r : Request} (h : ∀ options, r ≠ .read options) :
    r.readsInput = false := by
  cases r with
  | read options => exact absurd rfl (h options)
  | _ => rfl

/-- A run whose flags meet a request at once is that request, whatever else it is given. -/
theorem run_eq_outcome {flags : List Flag} {operands arguments : List Text} {r : Request}
    (h : WrittenArguments flags operands arguments)
    (herr : Options.initial.takeAll flags = .error r) (input : List UInt8) :
    run arguments input = r.outcome [] := by
  rcases readArguments_of_written h with ⟨htake, -⟩ | ⟨r', herr', hread, hr⟩
  · rw [herr] at htake
    cases htake
  · cases herr.symm.trans herr'
    rw [run, hread, Request.outcome_of_not_readsInput (Request.readsInput_of_ne_read hr) input []]

/-! ### The default log -/

/-- The line of the log that reports a refusal. -/
def refusalLine (text : Text) (e : Error) : Text :=
  "[method_sig] [WARN] cannot parse ".toList ++ Text.quoted text ++ ": ".toList ++ e.message
    ++ ['\n']

theorem line_refusalRecord (text : Text) (e : Error) :
    (refusalRecord text e).line = refusalLine text e := by
  have hhead : '[' :: "method_sig".toList ++ [']', ' ', '['] ++ Level.warn.name ++ [']', ' ']
      ++ "cannot parse ".toList = "[method_sig] [WARN] cannot parse ".toList := by decide
  unfold Record.line refusalRecord refusalLine
  rw [← hhead]
  dsimp only
  simp only [List.append_assoc]

/-- **A run with the default log.** The signatures among the texts that it is given, of which there
are fewer than 2³¹, are printed in order, in the form that is asked for. Each text that is refused
is reported, in order, and then their number is; and only refusals make the run fail. -/
theorem run_with_default_log (json : Bool) {operands texts arguments : List Text}
    {input : List UInt8} (h : WrittenArguments (if json then [.json] else []) operands arguments)
    (hgiven : Given operands input texts) (hlength : texts.length < 2 ^ 31) :
    run arguments input =
      { code := if (refused texts).isEmpty then 0 else 1
        stdout := (accepted texts).flatMap fun s =>
          (if json then s.toJson.pretty 0 else s.outline.pretty 0) ++ ['\n']
        stderr := ((refused texts).flatMap fun r => refusalLine r.1 r.2)
          ++ if (refused texts).isEmpty then []
            else "Error: ".toList ++ Nat.toDigits 10 (refused texts).length ++ " of ".toList
              ++ Nat.toDigits 10 texts.length ++ " signatures failed to parse\n".toList } := by
  have hlog : written (passed (.upTo .warn) (texts.flatMap events)) =
      (refused texts).flatMap fun r => refusalLine r.1 r.2 := by
    rw [passed_warn_events, written, List.flatMap_map]
    exact congrArg (List.flatMap · (refused texts)) (funext fun r => line_refusalRecord r.1 r.2)
  have htake : Options.initial.takeAll (if json then [.json] else []) =
      .ok ⟨if json then [.json] else [], []⟩ := by
    cases json <;> rfl
  have hform : Options.form ⟨if json then [.json] else [], operands⟩ =
      if json then .json else .outline := by
    cases json <;> rfl
  have hrender : (if json then Form.json else Form.outline).render = fun s =>
      (if json then s.toJson.pretty 0 else s.outline.pretty 0) ++ ['\n'] := by
    cases json <;> rfl
  have hthreshold : Options.threshold ⟨if json then [.json] else [], operands⟩ = .upTo .warn := by
    cases json <;> rfl
  have hfew : (refused texts).length < 2 ^ 31 := Nat.lt_of_le_of_lt (length_refused_le texts) hlength
  rw [run_eq_batch h htake hgiven, hform, hthreshold, batch_eq, hlog, closing_of_lt hfew, hrender,
    ite_failures_pos_of_lt hfew]
  rfl

theorem run_with_default_log_of_mixed_lines :
    run ["--json".toList]
        (Utf8.encode
          ("\ta b( ) ".toList ++ '\r' :: '\n' :: ("\r".toList ++ '\r' :: '\n' ::
            ("\\".toList ++ '\n' :: "c d(e,\tf)".toList)))) =
      { code := 1
        stdout :=
          "\x7b\n  \"access_modifier\": null,\n  \"return_type\": \"a\",\n".toList
            ++ "  \"method_name\": \"b\",\n  \"arguments\": []\n\x7d\n".toList
            ++ "\x7b\n  \"access_modifier\": null,\n  \"return_type\": \"c\",\n".toList
            ++ "  \"method_name\": \"d\",\n  \"arguments\": [\n    \x7b\n".toList
            ++ "      \"type\": \"e,\",\n      \"name\": \"f\"\n    \x7d\n  ]\n\x7d\n".toList
        stderr :=
          "[method_sig] [WARN] cannot parse \"\\\\\": ".toList
            ++ "missing \x60(\x60 after the method name\n".toList
            ++ "Error: 1 of 3 signatures failed to parse\n".toList } ∧
      run ["x".toList, "private a b(c d)".toList] [] =
        { code := 1
          stdout :=
            "MethodSignature \x7b\n    access_modifier: Some(\n        Private,\n    ),\n".toList
              ++ "    return_type: \"a\",\n    method_name: \"b\",\n".toList
              ++ "    arguments: [\n        Argument \x7b\n            ty: \"c\",\n".toList
              ++ "            name: \"d\",\n        \x7d,\n    ],\n\x7d\n".toList
          stderr :=
            "[method_sig] [WARN] cannot parse \"x\": ".toList
              ++ "missing \x60(\x60 after the method name\n".toList
              ++ "Error: 1 of 2 signatures failed to parse\n".toList } := by
  have hlines : WrittenLines ["\ta b( ) ".toList, "\r".toList, "\\".toList, "c d(e,\tf)".toList]
      ("\ta b( ) ".toList ++ '\r' :: '\n' :: ("\r".toList ++ '\r' :: '\n' ::
        ("\\".toList ++ '\n' :: "c d(e,\tf)".toList))) :=
    .returnFeed (by decide) (.returnFeed (by decide)
      (.feed (by decide) (by decide) (.unended (by decide) (by decide))))
  have harguments : WrittenArguments [] ["x".toList, "private a b(c d)".toList]
      ["x".toList, "private a b(c d)".toList] :=
    .operand (by decide) (.operand (by decide) .nil)
  constructor
  · exact (run_with_default_log true (.flags (.name .json) .nil) (.input hlines)
      (by decide +kernel)).trans (by decide +kernel)
  · exact (run_with_default_log false harguments (.arguments (by decide) [])
      (by decide +kernel)).trans (by decide +kernel)

/-! ### Arguments and lines -/

theorem WrittenOptions.append {flags more : List Flag} {arguments rest signatures : List Text}
    (h : WrittenOptions flags arguments) (hs : WrittenArguments more signatures rest) :
    WrittenArguments (flags ++ more) signatures (arguments ++ rest) := by
  induction h with
  | nil => exact hs
  | cons h _ ih =>
      rw [List.append_assoc]
      exact .flags h ih

/-- **Signatures as arguments and as lines.** Behind flags, the same signatures may be given as
arguments behind two dashes or, without any, on lines of input with blank lines among them. -/
theorem run_append_signatures {flags : List Flag} {options signatures : List Text} {text : Text}
    (hoptions : WrittenOptions flags options) (hne : signatures ≠ [])
    (htext : Spread signatures text) (input : List UInt8) :
    run (options ++ ['-', '-'] :: signatures) input = run options (Utf8.encode text) := by
  have harguments := hoptions.append (.ended signatures)
  have hlines := hoptions.append .nil
  rw [List.append_nil] at harguments hlines
  rw [List.append_nil] at hlines
  rcases Options.initial.takeAll_cases flags with htake | ⟨r, herr, -⟩
  · rw [run_eq_batch harguments htake (.arguments hne input),
      run_eq_batch hlines htake htext.given]
    rfl
  · rw [run_eq_outcome harguments herr, run_eq_outcome hlines herr]

theorem run_append_signatures_of_mixed_lines :
    Spread ["int f(int a)".toList, " x  ".toList, "--json".toList]
        (" \u2003".toList ++ ['\n'] ++ ("int f(int a)".toList ++ ['\r', '\n'] ++
          ("\r".toList ++ ['\r', '\n'] ++ (" x  ".toList ++ ['\n'] ++ "--json".toList)))) ∧
      run ["-vv".toList, "--json".toList, "--".toList, "int f(int a)".toList, " x  ".toList,
          "--json".toList] [] =
        run ["-vv".toList, "--json".toList]
          (Utf8.encode
            (" \u2003".toList ++ ['\n'] ++ ("int f(int a)".toList ++ ['\r', '\n'] ++
              ("\r".toList ++ ['\r', '\n'] ++ (" x  ".toList ++ ['\n'] ++ "--json".toList))))) := by
  have hbundle : WrittenFlags [.verbose, .verbose] "-vv".toList :=
    .letters (by decide) (by decide)
  have hoptions : WrittenOptions [.verbose, .verbose, .json] ["-vv".toList, "--json".toList] :=
    .cons hbundle (.cons (.name .json) .nil)
  have hspaces : Text.isAllBlank " \u2003".toList = true := by decide +kernel
  have hreturn : Text.isAllBlank "\r".toList = true := by decide +kernel
  have hfirst : IsEntry "int f(int a)".toList := ⟨by decide +kernel, by decide, by decide⟩
  have hsecond : IsEntry " x  ".toList := ⟨by decide +kernel, by decide, by decide⟩
  have hlast : IsEntry "--json".toList := ⟨by decide +kernel, by decide, by decide⟩
  have hlines := Spread.blankLine hspaces (by decide) .feed
    (.line hfirst .returnFeed (.blankLine hreturn (by decide) .returnFeed
      (.line hsecond .feed (.last hlast))))
  exact ⟨hlines, run_append_signatures hoptions (by decide) hlines []⟩

end Declarator.Cli
