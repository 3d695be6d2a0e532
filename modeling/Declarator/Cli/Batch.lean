import Declarator.Log.Session
import Declarator.Signature.Json

/-!
# Batches

A logger is installed, and the texts of a batch are read one by one. A signature is printed; a
refused text prints nothing, is reported to the log, and is counted.

- `Cli.Form.render` : how a signature is printed.
- `Cli.Progress.next` : what reading one more text adds.
- `Cli.batch` : the outcome of a batch.
-/

namespace Declarator.Cli

open Log Signature

/-- What a run leaves behind. -/
structure Outcome where
  code : Nat
  stdout : Text
  stderr : Text
  deriving DecidableEq

/-- How signatures are printed. -/
inductive Form where
  | outline
  | json
  deriving DecidableEq

/-- A signature as it is printed, with each part on a line of its own. -/
def Form.render : Form → Signature → Text
  | .outline, s => s.outline.pretty 0 ++ ['\n']
  | .json, s => s.toJson.pretty 0 ++ ['\n']

/-- Said about a text that is refused. -/
def refusalRecord (text : Text) (e : Error) : Record :=
  ⟨.warn, "method_sig".toList,
    "cannot parse ".toList ++ Text.quoted text ++ ": ".toList ++ e.message⟩

/-- The last line of a batch with refusals. -/
def summary (refused all : Nat) : Text :=
  "Error: ".toList ++ Nat.toDigits 10 refused ++ " of ".toList ++ Nat.toDigits 10 all
    ++ " signatures failed to parse\n".toList

/-- How far a batch has come: the count of refused texts, what was printed, and the records that
were written, the latest first. The count is a signed number of 32 bits, and wraps around. -/
structure Progress where
  refused : Int32
  printed : List Text
  logged : List Record
  deriving DecidableEq

namespace Progress

/-- Nothing has been read. -/
def start : Progress := ⟨0, [], []⟩

/-- Hands records to the log of a session. -/
def log (session : Session) (p : Progress) (records : List Record) : Progress :=
  { p with logged := (session.heard records).reverse ++ p.logged }

/-- Reads one more text. -/
def next (form : Form) (session : Session) (p : Progress) (text : Text) : Progress :=
  let read := p.log session (records text)
  match parse text with
  | .ok s => { read with printed := form.render s :: read.printed }
  | .error e => { read.log session [refusalRecord text e] with refused := read.refused + 1 }

/-- The outcome of a batch, when all of its texts have been read. It fails if the count is above
zero. -/
def outcome (p : Progress) (all : Nat) : Outcome :=
  { code := if 0 < p.refused then 1 else 0
    stdout := p.printed.reverse.flatten
    stderr := written p.logged.reverse
      ++ if 0 < p.refused then summary p.refused.toNatClampNeg all else [] }

end Progress

/-- The outcome of a batch with a log up to a threshold. -/
def batch (form : Form) (threshold : Threshold) (texts : List Text) : Outcome :=
  let session := (Session.fresh.step (.install threshold)).1
  (texts.foldl (Progress.next form session) .start).outcome texts.length

end Declarator.Cli
