import Declarator.Text.Basic
import Declarator.Text.Printable
import Declarator.Text.Extender

/-!
# Quoted texts

Diagnostics show a text in double quotes with everything that would not print plainly escaped, so
that a quoted text stays on one line and can be told from any other.

- `Text.escape` : how one character is shown.
- `Text.quoted` : how a text is shown.
-/

namespace Declarator.Text

/-- One character inside quotes. The null character, tab, the line ends, the quote and the
backslash have a short escape; a character that is not printable or extends a grapheme is given by
its code point in lower-case hexadecimal digits; all else stands for itself. -/
def escape (c : Char) : Text :=
  if c = '\x00' then ['\\', '0']
  else if c = '\t' then ['\\', 't']
  else if c = '\r' then ['\\', 'r']
  else if c = '\n' then ['\\', 'n']
  else if c = '"' then ['\\', '"']
  else if c = '\\' then ['\\', '\\']
  else if isExtender c || !isPrintable c then
    ['\\', 'u', '{'] ++ Nat.toDigits 16 c.toNat ++ ['}']
  else [c]

/-- A text between double quotes, each character escaped. -/
def quoted (t : Text) : Text :=
  '"' :: t.flatMap escape ++ ['"']

end Declarator.Text
