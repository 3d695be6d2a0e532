import Declarator.Parsing.Outcome

/-!
# Building blocks of parsers

The single steps that take text, and the ways of putting parsers together. Each gives a mismatch
that names its own rule, so the error type of a parser says how such an error is made.

- `takeTill`, `takeTill1`, `takeWhile1`, `tag`, `streamTag`, `char`, `eof` : single steps.
- `opt`, `many`, `separatedList1`, `allConsuming`, `within` : parsers made of parsers.
- `cut` : commits to a parser, so that no mismatch leaves it.
-/

namespace Declarator.Parsing

/-- How errors are made of the rule that did not match and the text it was applied to. -/
class RuleError (ε : Type) where
  ofRule : Rule → Text → ε

variable {ε α β : Type}

/-- Ends the parse with the error `e`. -/
def fail (e : ε) : Parser ε α :=
  fun _ => .failure e

/-- Commits to `p`: a mismatch becomes a failure with the error that `relabel` makes of the text
`p` was applied to. Whatever else `p` answers stands. -/
def cut (relabel : Text → ε) (p : Parser ε α) : Parser ε α :=
  fun input =>
    match p input with
    | .mismatch _ => .failure (relabel input)
    | answer => answer

/-- Applies `p` to another text, and goes on where it stood. -/
def within (text : Text) (p : Parser ε α) : Parser ε α :=
  fun input => (p text).andThen fun v _ => .done v input

/-- A match of `p`, or nothing in place of a mismatch. -/
def opt (p : Parser ε α) : Parser ε (Option α) :=
  fun input =>
    match p input with
    | .done v rest => .done (some v) rest
    | .mismatch _ => .done none input
    | .failure e => .failure e
    | .incomplete n => .incomplete n

/-- The second parser in place of a mismatch of the first. -/
def orElse (p q : Parser ε α) : Parser ε α :=
  fun input =>
    match p input with
    | .mismatch _ => q input
    | answer => answer

section Steps

variable [RuleError ε]

/-- Does not match. -/
def reject (rule : Rule) : Parser ε α :=
  fun input => .mismatch (RuleError.ofRule rule input)

/-- The text up to the first character with `stop`, possibly empty. -/
def takeTill (stop : Char → Bool) : Parser ε Text :=
  fun input => .done (input.takeWhile (!stop ·)) (input.dropWhile (!stop ·))

/-- The text up to the first character with `stop`, at least one character. -/
def takeTill1 (stop : Char → Bool) : Parser ε Text :=
  fun input =>
    match input.takeWhile (!stop ·) with
    | [] => reject .takeTill1 input
    | taken => .done taken (input.dropWhile (!stop ·))

/-- The run of characters with `keep`, at least one character. -/
def takeWhile1 (keep : Char → Bool) : Parser ε Text :=
  fun input =>
    match input.takeWhile keep with
    | [] => reject .takeWhile1 input
    | taken => .done taken (input.dropWhile keep)

/-- The given character. -/
def char (c : Char) : Parser ε Char
  | [] => reject .char []
  | d :: rest => if d = c then .done c rest else reject .char (d :: rest)

/-- The given text. -/
def tag (s : Text) : Parser ε Text :=
  fun input =>
    match Text.after? s input with
    | some rest => .done s rest
    | none => reject .tag input

/-- The given text, where more of the input may be on its way: an input that ends inside the given
text is incomplete by the bytes that are missing. -/
def streamTag (s : Text) : Parser ε Text :=
  fun input =>
    match Text.after? s input with
    | some rest => .done s rest
    | none =>
        match Text.after? input s with
        | some missing => .incomplete (Text.width missing)
        | none => reject .tag input

/-- The end of the text. -/
def eof : Parser ε Unit
  | [] => .done () []
  | input => reject .eof input

/-- A match of `p` that leaves nothing. -/
def allConsuming (p : Parser ε α) : Parser ε α := do
  let v ← p
  eof
  return v

/-- Matches of `p` one after another up to the first mismatch, which is dropped. A match that
takes nothing would go on for ever, and is a mismatch that names `rule`. -/
def many (rule : Rule) (p : Parser ε α) (input : Text) : Outcome ε (List α) :=
  match p input with
  | .done v rest =>
      if rest.length < input.length then
        (many rule p rest).andThen fun vs rest => .done (v :: vs) rest
      else reject rule input
  | .mismatch _ => .done [] input
  | .failure e => .failure e
  | .incomplete n => .incomplete n
termination_by input.length

/-- At least one `item`, with a `separator` between neighbours. A separator that no item follows
is left in the text. -/
def separatedList1 (separator : Parser ε β) (item : Parser ε α) : Parser ε (List α) := do
  let first ← item
  let others ← many .separatedList (do let _ ← separator; item)
  return first :: others

end Steps

end Declarator.Parsing
