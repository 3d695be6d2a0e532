import Declarator.Text.Basic

/-!
# Plain text

A terminal takes some characters as instructions. A text is shown plainly without them: without
control characters other than line ends and the like, and without the sequences that an escape
character begins.

- `Text.Sequence` : where a text stands within a sequence.
- `Text.plain` : what is left of a text.
-/

namespace Declarator.Text

/-- Where a text stands within a sequence of control characters. -/
inductive Sequence where
  /-- In no sequence. -/
  | outside
  /-- After an escape character. -/
  | escape
  /-- After an escape character and marks that call for one more character. -/
  | escapeMarks
  /-- In the parameters of a control sequence, which a letter ends. -/
  | control
  /-- At the beginning of a device string. -/
  | device
  /-- In the parameters of a device string. -/
  | deviceParameters
  /-- In the marks after the parameters of a device string. -/
  | deviceMarks
  /-- In a string, which a character with the byte `0x9c` ends. -/
  | body
  /-- In a command to the system, which the bell ends. -/
  | command
  deriving DecidableEq

/-- Whether the code point of a character is at least `low` and at most `high`. -/
def isWithin (low high : Nat) (c : Char) : Bool :=
  low ≤ c.toNat && c.toNat ≤ high

/-- Tab, line feed, form feed, carriage return. -/
def isLayout (c : Char) : Bool :=
  c = '\t' || c = '\n' || c = '\x0c' || c = '\r'

/-- Whether a character is shown outside of sequences. -/
def isShown (c : Char) : Bool :=
  isLayout c || (0x20 ≤ c.toNat && c.toNat != 0x7f)

namespace Sequence

/-- Whether a character is shown although it stands in a sequence, or because it stands in none. -/
def shows (q : Sequence) (c : Char) : Bool :=
  match q with
  | outside => isShown c
  | escape | escapeMarks | control => isLayout c
  | device | deviceParameters | deviceMarks | body | command => false

/-- What a character after an escape character begins. -/
def opened (c : Char) : Sequence :=
  if c = '[' then control
  else if c = ']' then command
  else if c = 'P' then device
  else if c = 'X' || c = '^' || c = '_' then body
  else if isWithin 0x30 0x7e c then outside
  else if isWithin 0x20 0x2f c then escapeMarks
  else escape

/-- Where a text stands after one more character. Two control characters leave every sequence, and
an escape character begins another. -/
def advance (q : Sequence) (c : Char) : Sequence :=
  if c = '\x18' || c = '\x1a' then outside
  else if c = '\x1b' then escape
  else
    match q with
    | outside => outside
    | escape => opened c
    | escapeMarks => if isWithin 0x30 0x7e c then outside else escapeMarks
    | control => if isWithin 0x40 0x7e c then outside else control
    | device =>
        if isWithin 0x40 0x7e c || c = ':' then body
        else if isWithin 0x30 0x3f c then deviceParameters
        else if isWithin 0x20 0x2f c then deviceMarks
        else device
    | deviceParameters =>
        if isWithin 0x40 0x7e c || c = ':' || isWithin 0x3c 0x3f c then body
        else if isWithin 0x20 0x2f c then deviceMarks
        else deviceParameters
    | deviceMarks => if isWithin 0x30 0x7e c then body else deviceMarks
    | body => if (String.utf8EncodeChar c).contains 0x9c then outside else body
    | command => if c = '\x07' then outside else command

end Sequence

/-- What is shown of a text that goes on within `q`. Once a character is shown (`showing`), so are
all that follow up to the next control character; there the sequence goes on that was left, unless
a character beyond the first 128 has ended it. -/
def plainFrom (showing : Bool) (q : Sequence) : Text → Text
  | [] => []
  | c :: t =>
      if showing && isShown c then c :: plainFrom true (if 0x80 ≤ c.toNat then .outside else q) t
      else if q.shows c then c :: plainFrom true (q.advance c) t
      else plainFrom false (q.advance c) t

/-- A text as it is shown, without control characters and sequences. -/
def plain (t : Text) : Text :=
  plainFrom false .outside t

end Declarator.Text
