import Declarator.Proofs.Cli.Run
import Declarator.Proofs.Log.Threshold

/-!
# What verbosity changes

The threshold of the log is chosen once, by the number of requests for more detail. It decides
which records are written and nothing else: what a run prints, how it ends and what it says behind
its log are the same at every threshold. The form in which signatures are printed, in turn, does
not bear on the log.

* `Reported`, `exists_run_eq`: what there is to report does not depend on the threshold.
* `IsQuieter`: a run leaves out some records of another.
* `run_quieter_and_run_json`: **runs that differ in verbosity, and in JSON**.
-/

namespace Declarator.Cli

open Log Signature

/-! ### What a run has to report -/

/-- What a run has to report at any threshold: records for its log, and what is said behind the
log. -/
inductive Reported (flags : List Flag) (operands : List Text) (input : List UInt8) :
    List Record → Text → Prop where
  /-- Texts are read. -/
  | batch {texts : List Text} (htake : Options.initial.takeAll flags = .ok ⟨flags, []⟩)
      (h : Given operands input texts) :
      Reported flags operands input (texts.flatMap events) (closing texts)
  /-- There are no texts, as the input is not UTF-8. -/
  | unreadable (htake : Options.initial.takeAll flags = .ok ⟨flags, []⟩)
      (hoperands : operands = []) (hinput : Utf8.decode? input = none) :
      Reported flags operands input [] unreadable.stderr
  /-- A request is met at once. -/
  | atOnce {r : Request} (herr : Options.initial.takeAll flags = .error r) :
      Reported flags operands input [] (r.outcome []).stderr

/-- Runs of the same signatures whose flags are taken have the same to print and to report. The
flags decide on the form and on the threshold, and on nothing else. -/
theorem exists_run_eq (operands : List Text) (input : List UInt8) :
    ∃ (code : Nat) (print : Form → Text) (records : List Record) (behind : Text),
      ∀ {flags : List Flag} {arguments : List Text}, WrittenArguments flags operands arguments →
        Options.initial.takeAll flags = .ok ⟨flags, []⟩ →
        Reported flags operands input records behind ∧
          run arguments input =
            { code := code
              stdout := print (Options.form ⟨flags, operands⟩)
              stderr :=
                written (passed (Options.threshold ⟨flags, operands⟩) records) ++ behind } := by
  rcases exists_given_or_unreadable operands input with ⟨texts, hgiven⟩ | ⟨hop, hinput, houtcome⟩
  · refine ⟨if 0 < failures texts then 1 else 0,
      fun form => (accepted texts).flatMap form.render, texts.flatMap events, closing texts, ?_⟩
    intro flags arguments h htake
    refine ⟨.batch htake hgiven, ?_⟩
    rw [run_eq_batch h htake hgiven, batch_eq]
  · refine ⟨1, fun _ => [], [], unreadable.stderr, ?_⟩
    intro flags arguments h htake
    refine ⟨.unreadable htake hop hinput, ?_⟩
    rw [run_eq_outcome_of_taken h htake, houtcome]
    rfl

/-! ### Two runs -/

/-- A run is another with fewer records in its log: of the records of the other, those that pass
its threshold. -/
structure IsQuieter (flags : List Flag) (operands : List Text) (input : List UInt8)
    (quiet loud : Outcome) (t t' : Threshold) : Prop where
  code : quiet.code = loud.code
  stdout : quiet.stdout = loud.stdout
  stderr : ∃ records behind, Reported flags operands input records behind ∧
    loud.stderr = written (passed t' records) ++ behind ∧
    quiet.stderr = written (passed t (passed t' records)) ++ behind

theorem form_eq_of_filter {flags flags' : List Flag}
    (h : flags.filter (· != .verbose) = flags'.filter (· != .verbose)) (operands : List Text) :
    Options.form ⟨flags, operands⟩ = Options.form ⟨flags', operands⟩ := by
  have hjson : ∀ fs : List Flag, fs.contains .json = (fs.filter (· != .verbose)).contains .json := by
    intro fs
    rw [List.contains_eq_mem, List.contains_eq_mem]
    simp
  rw [Options.form, Options.form, Options.json, Options.json, hjson, h, ← hjson]

theorem threshold_eq (flags : List Flag) (operands : List Text) :
    Options.threshold ⟨flags, operands⟩ = thresholdFor (flags.count .verbose) :=
  thresholdFor_min _

/-- **Runs that differ in verbosity, and in JSON.** Of two runs that differ in their requests for a
more detailed log and in nothing else, the one with fewer is the other with fewer records. A
request for JSON changes neither the log nor how a run ends. -/
theorem run_quieter_and_run_json {flags flags' : List Flag}
    {operands arguments arguments' : List Text} (h : WrittenArguments flags operands arguments)
    (h' : WrittenArguments flags' operands arguments') (input : List UInt8) :
    (flags.filter (· != .verbose) = flags'.filter (· != .verbose) →
        flags.count .verbose ≤ flags'.count .verbose →
        IsQuieter flags' operands input (run arguments input) (run arguments' input)
          (thresholdFor (flags.count .verbose)) (thresholdFor (flags'.count .verbose))) ∧
      (flags'.count .json = 1 → flags'.filter (· != .json) = flags →
        (run arguments' input).code = (run arguments input).code ∧
          (run arguments' input).stderr = (run arguments input).stderr) := by
  obtain ⟨code, print, records, behind, hrun⟩ := exists_run_eq operands input
  constructor
  · intro hrest hle
    rcases Options.takeAll_pair (.inl rfl) (.inl rfl) hrest with
      ⟨htake, htake'⟩ | ⟨r, herr, herr'⟩
    · rw [(hrun h htake).2, (hrun h' htake').2, threshold_eq, threshold_eq,
        form_eq_of_filter hrest]
      refine ⟨rfl, rfl, records, behind, (hrun h' htake').1, rfl, ?_⟩
      rw [passed_passed (thresholdFor_mono hle)]
    · rw [run_eq_outcome h herr, run_eq_outcome h' herr']
      exact ⟨rfl, rfl, [], _, .atOnce herr', rfl, rfl⟩
  · intro hcount hrest
    -- One run asks for JSON once and the other never, so neither is refused for repeating it.
    have hnone : flags.count .json = 0 := by
      rw [← hrest, List.count_eq_zero]
      simp
    have hsame : flags.filter (· != .json) = flags'.filter (· != .json) := by
      rw [← hrest, List.filter_filter]
      simp
    have hverbose : flags'.count .verbose = flags.count .verbose := by
      rw [← hrest, List.count_filter (by decide)]
    rcases Options.takeAll_pair (.inr ⟨rfl, by omega⟩) (.inr ⟨rfl, by omega⟩) hsame with
      ⟨htake, htake'⟩ | ⟨r, herr, herr'⟩
    · rw [(hrun h htake).2, (hrun h' htake').2, threshold_eq, threshold_eq, hverbose]
      exact ⟨rfl, rfl⟩
    · rw [run_eq_outcome h herr, run_eq_outcome h' herr']
      exact ⟨rfl, rfl⟩

theorem run_quieter_and_run_json_of_bundles :
    IsQuieter [.verbose, .verbose, .verbose] ["a b()".toList, "-".toList] []
        (run ["-v".toList, "a b()".toList, "-".toList] [])
        (run ["a b()".toList, "-vv".toList, "--verbose".toList, "--".toList, "-".toList] [])
        (.upTo .info) (.upTo .trace) ∧
      (run ["-v".toList, "a b()".toList, "--json".toList, "-".toList] []).code =
        (run ["-v".toList, "a b()".toList, "-".toList] []).code ∧
      (run ["-v".toList, "a b()".toList, "--json".toList, "-".toList] []).stderr =
        (run ["-v".toList, "a b()".toList, "-".toList] []).stderr := by
  have hone : WrittenFlags [.verbose] "-v".toList := .letters (by decide) (by decide)
  have htwo : WrittenFlags [.verbose, .verbose] "-vv".toList := .letters (by decide) (by decide)
  have hfirst : IsOperand "a b()".toList := by decide
  have hsecond : IsOperand "-".toList := by decide
  have hquiet : WrittenArguments [.verbose] ["a b()".toList, "-".toList]
      ["-v".toList, "a b()".toList, "-".toList] :=
    .flags hone (.operand hfirst (.operand hsecond .nil))
  have hloud : WrittenArguments [.verbose, .verbose, .verbose] ["a b()".toList, "-".toList]
      ["a b()".toList, "-vv".toList, "--verbose".toList, "--".toList, "-".toList] :=
    .operand hfirst (.flags htwo (.flags (.name .verbose) (.ended _)))
  have hjson : WrittenArguments [.verbose, .json] ["a b()".toList, "-".toList]
      ["-v".toList, "a b()".toList, "--json".toList, "-".toList] :=
    .flags hone (.operand hfirst (.flags (.name .json) (.operand hsecond .nil)))
  exact ⟨(run_quieter_and_run_json hquiet hloud []).1 (by decide) (by decide),
    (run_quieter_and_run_json hquiet hjson []).2 (by decide) (by decide)⟩

end Declarator.Cli
