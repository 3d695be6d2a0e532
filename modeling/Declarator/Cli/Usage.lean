import Declarator.Cli.Suggestion
import Declarator.Text.Plain

/-!
# What the command line says about itself

- `Cli.helpText`, `Cli.versionText` : what is printed on request.
- `Cli.Mistake.message` : what is said about a mistake in the arguments.
-/

namespace Declarator.Cli

/-- A line and its end. -/
def line (s : String) : Text :=
  s.toList ++ ['\n']

/-- The general form of the command line. -/
def generalForm : Text := "method-sig [OPTIONS] [SIGNATURES]...".toList

/-- The explanation of all arguments. -/
def helpText : Text :=
  line "Parse Java-like method signatures and print their parts"
    ++ line ""
    ++ "Usage: ".toList ++ generalForm ++ ['\n']
    ++ line ""
    ++ line "Arguments:"
    ++ "  [SIGNATURES]...  Signatures to parse, e.g. \"private void log(String value)\". ".toList
    ++ line "Read one per line from stdin when none are given"
    ++ line ""
    ++ line "Options:"
    ++ line "      --json        Print results as JSON instead of Rust debug output"
    ++ line "  -v, --verbose...  Raise the log level (-v info, -vv debug, -vvv trace)"
    ++ line "  -h, --help        Print help"
    ++ line "  -V, --version     Print version"

/-- The name and the version of the program. -/
def versionText : Text :=
  line "method-sig 0.1.0"

/-- A flag as it is shown; one that may be repeated has dots. -/
def Flag.shown : Flag → Text
  | .verbose => "--verbose...".toList
  | flag => "--".toList ++ flag.name

/-- An option as it was given, and how it could be given otherwise: under the name of a similar
flag, or as a signature. -/
def unknownExplanation (argument : Text) (similar : Option Flag) : Text :=
  let shown := argument.plain
  "unexpected argument '".toList ++ shown ++ line "' found"
    ++ line ""
    ++ match similar with
      | some flag =>
          "  tip: a similar argument exists: '--".toList ++ flag.name ++ line "'"
      | none =>
          "  tip: to pass '".toList ++ shown ++ "' as a value, use '-- ".toList ++ shown ++ line "'"

/-- What is wrong, without the usage. -/
def Mistake.explanation : Mistake → Text
  | .unknownName name _ => unknownExplanation ('-' :: '-' :: name) (similar? name)
  | .unknownLetter letter => unknownExplanation ['-', letter] none
  | .unexpectedValue flag value _ =>
      "unexpected value '".toList ++ value.plain ++ "' for '".toList ++ flag.shown
        ++ line "' found; no more were expected"
  | .repeated flag =>
      "the argument '".toList ++ flag.shown ++ line "' cannot be used multiple times"

/-- The flags that were given, each where it was given last. -/
def Options.given (o : Options) : List Flag :=
  o.flags.reverse.eraseDups.reverse

/-- A form of the command line that shows some flags. -/
def formWith (flags : List Flag) (others : String) : Text :=
  "method-sig ".toList ++ flags.flatMap (fun flag => flag.shown ++ [' ']) ++ others.toList

/-- The form that is recalled after an unknown name: with what was given and with the flag that may
have been meant, or in general if there is neither. -/
def formAfterUnknown (o : Options) (similar : Option Flag) : Text :=
  let flags := o.given ++ similar.toList.filter (!o.given.contains ·)
  if flags.isEmpty && o.signatures.isEmpty then generalForm
  else formWith flags (if o.signatures.isEmpty then "[SIGNATURES]..." else "<SIGNATURES>...")

/-- The form that is recalled after an unexpected value: with the flag that was misused. After
other flags, it shows all that a run can be asked for as one choice. -/
def formAfterValue (o : Options) (flag : Flag) : Text :=
  if o.flags.isEmpty then formWith [flag] "[SIGNATURES]..."
  else formWith ([flag].filter fun f => f = .help || f = .version) "<SIGNATURES|--json|--verbose...>"

/-- The form of the command line that is recalled. -/
def Mistake.form : Mistake → Text
  | .unknownName name options => formAfterUnknown options (similar? name)
  | .unexpectedValue flag _ options => formAfterValue options flag
  | .unknownLetter _ | .repeated _ => generalForm

/-- What is said about a mistake. -/
def Mistake.message (m : Mistake) : Text :=
  "error: ".toList ++ m.explanation
    ++ line ""
    ++ "Usage: ".toList ++ m.form ++ ['\n']
    ++ line ""
    ++ line "For more information, try '--help'."

end Declarator.Cli
