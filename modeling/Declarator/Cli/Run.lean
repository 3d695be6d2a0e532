import Declarator.Cli.Batch
import Declarator.Cli.Usage
import Declarator.Text.Line

/-!
# A run of the program

- `Cli.inputTexts?` : the signatures that are given on standard input.
- `Cli.run` : the outcome of a run, from its arguments and the bytes on standard input.
- `Cli.Request.outcome_of_not_readsInput` : standard input does not matter where it is not read.
-/

namespace Declarator.Cli

open Log

/-- How an answer is printed. -/
def Options.form (o : Options) : Form :=
  if o.json then .json else .outline

/-- The threshold that is asked for. -/
def Options.threshold (o : Options) : Threshold :=
  thresholdFor o.verbosity

/-- The signatures on standard input: the lines that are not blank, if all lines are UTF-8. -/
def inputTexts? (input : List UInt8) : Option (List Text) :=
  (Line.read? input).map (·.filter (!Text.isAllBlank ·))

/-- The outcome where standard input is not UTF-8. -/
def unreadable : Outcome :=
  { code := 1
    stdout := []
    stderr :=
      line "Error: failed to read signatures from stdin"
        ++ line ""
        ++ line "Caused by:"
        ++ line "    stream did not contain valid UTF-8" }

/-- The outcome of what the options ask for. -/
def Options.outcome (o : Options) (input : List UInt8) : Outcome :=
  if o.signatures.isEmpty then
    match inputTexts? input with
    | some texts => batch o.form o.threshold texts
    | none => unreadable
  else batch o.form o.threshold o.signatures

/-- The outcome of a request. -/
def Request.outcome (r : Request) (input : List UInt8) : Outcome :=
  match r with
  | .read o => o.outcome input
  | .help => ⟨0, helpText, []⟩
  | .version => ⟨0, versionText, []⟩
  | .mistake m => ⟨2, [], m.message⟩

/-- Whether a request needs standard input. -/
def Request.readsInput : Request → Bool
  | .read o => o.signatures.isEmpty
  | .help | .version | .mistake _ => false

/-- The outcome of a run. -/
def run (arguments : List Text) (input : List UInt8) : Outcome :=
  (readArguments arguments).outcome input

theorem Request.outcome_of_not_readsInput {r : Request} (h : r.readsInput = false)
    (input input' : List UInt8) : r.outcome input = r.outcome input' := by
  cases r with
  | read o =>
      have ho : o.signatures.isEmpty = false := h
      simp [Request.outcome, Options.outcome, ho]
  | _ => rfl

end Declarator.Cli
