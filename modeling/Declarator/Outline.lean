import Declarator.Text.Quoted
import Declarator.Text.Pieces

/-!
# Outlines

An outline shows how a value is built: words, quoted texts, named records and tuples, and lists.
It is written on one line, or with one part a line.

- `Outline.compact` : an outline on one line.
- `Outline.pretty` : an outline with each part on a line of its own, four columns further in and
  followed by a comma.
-/

namespace Declarator

/-- How a value is built. -/
inductive Outline where
  /-- A word that stands for itself. -/
  | word (w : Text)
  /-- A text, shown in quotes. -/
  | quoted (t : Text)
  /-- Parts that have names. -/
  | record (name : Text) (fields : List (Text × Outline))
  /-- Parts that have places. -/
  | tuple (name : Text) (items : List Outline)
  /-- Any number of parts. -/
  | list (items : List Outline)

namespace Outline

/-- The name of a field, before its value. -/
def label (name : Text) : Text :=
  name ++ [':', ' ']

mutual

/-- An outline on one line. -/
def compact : Outline → Text
  | .word w => w
  | .quoted t => Text.quoted t
  | .record name fields =>
      name ++ [' ', '{', ' '] ++ Text.joined (compactFields fields) ++ [' ', '}']
  | .tuple name items => name ++ '(' :: Text.joined (compactItems items) ++ [')']
  | .list items => '[' :: Text.joined (compactItems items) ++ [']']

/-- Each field on one line. -/
def compactFields : List (Text × Outline) → List Text
  | [] => []
  | (name, value) :: fields => (label name ++ compact value) :: compactFields fields

/-- Each part on one line. -/
def compactItems : List Outline → List Text
  | [] => []
  | item :: items => compact item :: compactItems items

end

/-- Parts between an opening and a closing, each on a line of its own. -/
def block (margin : Nat) (opening : Text) (parts : List Text) (closing : Char) : Text :=
  opening ++ '\n' :: parts.flatMap (fun p => List.replicate (margin + 4) ' ' ++ p ++ [',', '\n'])
    ++ List.replicate margin ' ' ++ [closing]

mutual

/-- An outline with each part on a line of its own; the lines after the first begin `margin`
columns in. -/
def pretty (margin : Nat) : Outline → Text
  | .word w => w
  | .quoted t => Text.quoted t
  | .record name fields =>
      block margin (name ++ [' ', '{']) (prettyFields (margin + 4) fields) '}'
  | .tuple name items => block margin (name ++ ['(']) (prettyItems (margin + 4) items) ')'
  | .list [] => ['[', ']']
  | .list (item :: items) =>
      block margin ['['] (pretty (margin + 4) item :: prettyItems (margin + 4) items) ']'

/-- Each field, to stand `margin` columns in. -/
def prettyFields (margin : Nat) : List (Text × Outline) → List Text
  | [] => []
  | (name, value) :: fields => (label name ++ pretty margin value) :: prettyFields margin fields

/-- Each part, to stand `margin` columns in. -/
def prettyItems (margin : Nat) : List Outline → List Text
  | [] => []
  | item :: items => pretty margin item :: prettyItems margin items

end

end Outline

end Declarator
