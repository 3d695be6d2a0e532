import Declarator.Text.Pieces

/-!
# JSON values and their text

The JSON values that are written: null, strings, arrays and objects, whose members keep their
order.

- `Json.quoted` : a string as it is written.
- `Json.compact` : a value without blanks.
- `Json.pretty` : a value with each part on a line of its own, two columns further in.
-/

namespace Declarator

/-- A JSON value to be written. -/
inductive Json where
  | null
  | string (t : Text)
  | array (items : List Json)
  | object (members : List (Text × Json))

namespace Json

/-- One character of a string. The quote, the backslash and the controls that have one take a
short escape; the other controls are given by code point; all else stands for itself. -/
def escape (c : Char) : Text :=
  if c = '"' then ['\\', '"']
  else if c = '\\' then ['\\', '\\']
  else if c = '\x08' then ['\\', 'b']
  else if c = '\t' then ['\\', 't']
  else if c = '\n' then ['\\', 'n']
  else if c = '\x0c' then ['\\', 'f']
  else if c = '\r' then ['\\', 'r']
  else if c.toNat < 0x20 then
    ['\\', 'u', '0', '0', Nat.digitChar (c.toNat / 16), Nat.digitChar (c.toNat % 16)]
  else [c]

/-- A string between its quotes. -/
def quoted (t : Text) : Text :=
  '"' :: t.flatMap escape ++ ['"']

mutual

/-- A value without blanks. -/
def compact : Json → Text
  | .null => ['n', 'u', 'l', 'l']
  | .string t => quoted t
  | .array items => '[' :: [','].intercalate (compactItems items) ++ [']']
  | .object members => '{' :: [','].intercalate (compactMembers members) ++ ['}']

/-- Each element without blanks. -/
def compactItems : List Json → List Text
  | [] => []
  | item :: items => compact item :: compactItems items

/-- Each member without blanks. -/
def compactMembers : List (Text × Json) → List Text
  | [] => []
  | (key, value) :: members => (quoted key ++ ':' :: compact value) :: compactMembers members

end

/-- Parts between brackets, each on a line of its own; without parts the brackets stand
together. -/
def block (margin : Nat) (opening : Char) (parts : List Text) (closing : Char) : Text :=
  if parts.isEmpty then [opening, closing]
  else
    opening :: '\n' :: [',', '\n'].intercalate (parts.map (List.replicate (margin + 2) ' ' ++ ·))
      ++ '\n' :: List.replicate margin ' ' ++ [closing]

mutual

/-- A value with each part on a line of its own; the lines after the first begin `margin` columns
in. -/
def pretty (margin : Nat) : Json → Text
  | .null => ['n', 'u', 'l', 'l']
  | .string t => quoted t
  | .array items => block margin '[' (prettyItems (margin + 2) items) ']'
  | .object members => block margin '{' (prettyMembers (margin + 2) members) '}'

/-- Each element, to stand `margin` columns in. -/
def prettyItems (margin : Nat) : List Json → List Text
  | [] => []
  | item :: items => pretty margin item :: prettyItems margin items

/-- Each member, to stand `margin` columns in. -/
def prettyMembers (margin : Nat) : List (Text × Json) → List Text
  | [] => []
  | (key, value) :: members =>
      (quoted key ++ ':' :: ' ' :: pretty margin value) :: prettyMembers margin members

end

end Json

end Declarator
