import Declarator.Text.Blank
import Declarator.Text.Utf8

/-!
# Lines

Bytes are cut into lines at line feeds. A carriage return before a line feed belongs to the line
end; one at the very end of the bytes does not.

- `Line.split` : the lines of bytes, without their ends.
- `Line.read?` : the lines as texts, if all of them are UTF-8.
-/

namespace Declarator.Line

/-- The line feed. -/
def feed : UInt8 := 0x0A

/-- The carriage return. -/
def carriageReturn : UInt8 := 0x0D

/-- Drops a carriage return at the end. -/
def dropReturn (line : List UInt8) : List UInt8 :=
  if line.getLast? = some carriageReturn then line.dropLast else line

/-- The lines of bytes. What follows the last line feed is a line only if it is not empty. -/
def split (bytes : List UInt8) : List (List UInt8) :=
  let parts := bytes.splitOnP (· == feed)
  let ended := parts.dropLast.map dropReturn
  match parts.getLast? with
  | some (b :: last) => ended ++ [b :: last]
  | _ => ended

/-- The lines of bytes as texts, or nothing if one of them is not UTF-8. -/
def read? (bytes : List UInt8) : Option (List Text) :=
  (split bytes).mapM Utf8.decode?

end Declarator.Line
