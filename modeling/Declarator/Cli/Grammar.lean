import Declarator.Cli.Options
import Declarator.Text.Blank
import Declarator.Text.Utf8

/-!
# The written form of what a run is given

Which arguments ask for which flags and signatures, and which input holds which lines, said without
reading them.

- `Cli.WrittenArguments` : a command line asks for flags and signatures.
- `Cli.WrittenLines` : a text consists of lines.
- `Cli.Given` : the signatures that a run is given, by its arguments or by its input.
- `Cli.Spread` : signatures stand in a text one a line, among blank lines.
-/

namespace Declarator.Cli

/-! ## Arguments -/

/-- An argument that is a signature where options are possible: it does not begin with a dash, or
the dash is all of it. -/
def IsOperand (argument : Text) : Prop :=
  argument.head? = some '-' → argument = ['-']

instance (argument : Text) : Decidable (IsOperand argument) :=
  inferInstanceAs (Decidable (argument.head? = some '-' → argument = ['-']))

/-- An argument that asks for flags: the long name of one, or a bundle of letters. -/
inductive WrittenFlags : List Flag → Text → Prop where
  | name (flag : Flag) : WrittenFlags [flag] ('-' :: '-' :: flag.name)
  | letters {flags : List Flag} {letters : Text} (hne : letters ≠ [])
      (h : flags.map Flag.letter? = letters.map some) : WrittenFlags flags ('-' :: letters)

/-- Arguments that ask for flags and for nothing else. -/
inductive WrittenOptions : List Flag → List Text → Prop where
  | nil : WrittenOptions [] []
  | cons {flags more : List Flag} {argument : Text} {arguments : List Text}
      (h : WrittenFlags flags argument) (hs : WrittenOptions more arguments) :
      WrittenOptions (flags ++ more) (argument :: arguments)

/-- Arguments that ask for flags and signatures, the flags in any place; behind two dashes alone
there are only signatures. -/
inductive WrittenArguments : List Flag → List Text → List Text → Prop where
  | nil : WrittenArguments [] [] []
  | ended (signatures : List Text) : WrittenArguments [] signatures (['-', '-'] :: signatures)
  | flags {flags more : List Flag} {signatures : List Text} {argument : Text}
      {arguments : List Text} (h : WrittenFlags flags argument)
      (hs : WrittenArguments more signatures arguments) :
      WrittenArguments (flags ++ more) signatures (argument :: arguments)
  | operand {flags : List Flag} {signatures : List Text} {argument : Text} {arguments : List Text}
      (h : IsOperand argument) (hs : WrittenArguments flags signatures arguments) :
      WrittenArguments flags (argument :: signatures) (argument :: arguments)

/-! ## Input -/

/-- A text that consists of lines. A line ends in a line feed or in a carriage return and a line
feed; the last may be without an end, if it is not empty. -/
inductive WrittenLines : List Text → Text → Prop where
  | nil : WrittenLines [] []
  | unended {line : Text} (hne : line ≠ []) (hfeed : '\n' ∉ line) : WrittenLines [line] line
  | feed {line text : Text} {lines : List Text} (hfeed : '\n' ∉ line)
      (hreturn : line.getLast? ≠ some '\r') (hs : WrittenLines lines text) :
      WrittenLines (line :: lines) (line ++ '\n' :: text)
  | returnFeed {line text : Text} {lines : List Text} (hfeed : '\n' ∉ line)
      (hs : WrittenLines lines text) :
      WrittenLines (line :: lines) (line ++ '\r' :: '\n' :: text)

/-- The signatures that a run is given: those among its arguments or, without any, the lines of its
input that are not blank. -/
inductive Given : List Text → List UInt8 → List Text → Prop where
  | arguments {signatures : List Text} (hne : signatures ≠ []) (input : List UInt8) :
      Given signatures input signatures
  | input {lines : List Text} {text : Text} (h : WrittenLines lines text) :
      Given [] (Utf8.encode text) (lines.filter (!Text.isAllBlank ·))

/-- A signature that can stand on a line. -/
structure IsEntry (signature : Text) : Prop where
  not_blank : Text.isAllBlank signature = false
  feed_not_mem : '\n' ∉ signature
  getLast?_ne_return : signature.getLast? ≠ some '\r'

/-- The end of a line. -/
inductive LineEnd : Text → Prop where
  | feed : LineEnd ['\n']
  | returnFeed : LineEnd ['\r', '\n']

/-- A text in which signatures stand one a line, with any blank lines among them. The last line may
be without an end. -/
inductive Spread : List Text → Text → Prop where
  | blank {gap : Text} (hgap : Text.isAllBlank gap = true) (hfeed : '\n' ∉ gap) : Spread [] gap
  | last {signature : Text} (h : IsEntry signature) : Spread [signature] signature
  | blankLine {gap ending text : Text} {signatures : List Text}
      (hgap : Text.isAllBlank gap = true) (hfeed : '\n' ∉ gap) (hend : LineEnd ending)
      (hs : Spread signatures text) : Spread signatures (gap ++ ending ++ text)
  | line {signature ending text : Text} {signatures : List Text} (h : IsEntry signature)
      (hend : LineEnd ending) (hs : Spread signatures text) :
      Spread (signature :: signatures) (signature ++ ending ++ text)

end Declarator.Cli
