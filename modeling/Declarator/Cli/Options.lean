import Declarator.Text.Basic

/-!
# The command line

Arguments are read from the left. Options may stand before and after signatures; two dashes alone
end the options. A request for help or for the version is met at once, and so is a mistake.

- `Cli.Options` : what is asked for.
- `Cli.readArguments` : what a list of arguments asks for.
-/

namespace Declarator.Cli

/-- The options that take no value. -/
inductive Flag where
  | json
  | verbose
  | help
  | version
  deriving DecidableEq

/-- What a run is asked to do: the flags that change how it is done, each as often as it was given
and in that order, and the signatures. -/
structure Options where
  flags : List Flag
  signatures : List Text
  deriving DecidableEq

/-- What is wrong with an argument. The options are those before it. -/
inductive Mistake where
  /-- No option has this name. -/
  | unknownName (name : Text) (options : Options)
  /-- No option has this letter. -/
  | unknownLetter (letter : Char)
  /-- A value was given to an option that takes none. -/
  | unexpectedValue (flag : Flag) (value : Text) (options : Options)
  /-- An option was given a second time. -/
  | repeated (flag : Flag)
  deriving DecidableEq

/-- What the arguments ask for. -/
inductive Request where
  | read (options : Options)
  | help
  | version
  | mistake (m : Mistake)
  deriving DecidableEq

namespace Options

/-- Nothing is asked for yet. -/
def initial : Options := ⟨[], []⟩

/-- Whether JSON is asked for. -/
def json (o : Options) : Bool :=
  o.flags.contains .json

/-- How many requests for a more detailed log there were, at most 255. -/
def verbosity (o : Options) : Nat :=
  min (o.flags.count .verbose) 255

/-- One more signature, behind the others. -/
def addSignature (o : Options) (signature : Text) : Options :=
  { o with signatures := o.signatures ++ [signature] }

/-- One more flag, behind the others. -/
def addFlag (o : Options) (flag : Flag) : Options :=
  { o with flags := o.flags ++ [flag] }

/-- The options after a flag, or the request that is met at once. -/
def take (o : Options) : Flag → Except Request Options
  | .json => if o.json then .error (.mistake (.repeated .json)) else .ok (o.addFlag .json)
  | .verbose => .ok (o.addFlag .verbose)
  | .help => .error .help
  | .version => .error .version

end Options

/-- Every flag once. -/
def Flag.all : List Flag := [.json, .verbose, .help, .version]

/-- The long name of a flag. -/
def Flag.name : Flag → Text
  | .json => "json".toList
  | .verbose => "verbose".toList
  | .help => "help".toList
  | .version => "version".toList

/-- The letter of a flag, if it has one. -/
def Flag.letter? : Flag → Option Char
  | .json => none
  | .verbose => some 'v'
  | .help => some 'h'
  | .version => some 'V'

/-- The flag with a long name. -/
def Flag.ofName? (name : Text) : Option Flag :=
  Flag.all.find? (·.name == name)

/-- The flag with a letter. -/
def Flag.ofLetter? (c : Char) : Option Flag :=
  Flag.all.find? (·.letter? == some c)

/-- A long option, after its dashes: a name, and a value if there is an equals sign. -/
def takeLong (o : Options) (body : Text) : Except Request Options :=
  let name := body.takeWhile (· != '=')
  match Flag.ofName? name with
  | none => .error (.mistake (.unknownName name o))
  | some flag =>
      match body.dropWhile (· != '=') with
      | [] => o.take flag
      | _ :: value => .error (.mistake (.unexpectedValue flag value o))

/-- A bundle of letters, after its dash. -/
def takeLetters (o : Options) : Text → Except Request Options
  | [] => .ok o
  | c :: letters =>
      match Flag.ofLetter? c with
      | none => .error (.mistake (.unknownLetter c))
      | some flag => do
          let more ← o.take flag
          takeLetters more letters

/-- One argument where options are still possible. -/
def takeArgument (o : Options) (argument : Text) : Except Request Options :=
  match argument with
  | '-' :: '-' :: body => takeLong o body
  | '-' :: c :: letters => takeLetters o (c :: letters)
  | _ => .ok (o.addSignature argument)

/-- The options after a list of arguments. -/
def takeArguments (o : Options) : List Text → Except Request Options
  | [] => .ok o
  | argument :: arguments =>
      if argument = ['-', '-'] then .ok (arguments.foldl Options.addSignature o)
      else do
        let more ← takeArgument o argument
        takeArguments more arguments

/-- What a list of arguments asks for. -/
def readArguments (arguments : List Text) : Request :=
  match takeArguments .initial arguments with
  | .ok o => .read o
  | .error r => r

end Declarator.Cli
