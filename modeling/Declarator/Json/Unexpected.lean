import Declarator.Json.Number
import Declarator.Json.String

/-!
# Values that were not expected

Where the kind of a value is wrong, the value is read as far as it has to be named.

- `Json.unexpected` : the problem with a value of the wrong kind.
-/

namespace Declarator.Json

/-- The mismatch with what was read, or the problem met while reading it. -/
def namedIn {α : Type} (expected : Text) (found : α → Option Found) :
    Except Problem (α × Text) → Problem
  | .error p => p
  | .ok (v, _) =>
      match found v with
      | some f => .data (.invalidType f expected)
      | none => .malformed

/-- The problem with a value at the front of the text where `expected` was wanted. Of a null, a
boolean, a number and a string all is read; of an array and an object only the bracket. -/
def unexpected (expected : Text) : Text → Problem
  | [] => .truncated
  | c :: rest =>
      if c = 'n' then
        namedIn expected (fun _ => some .null) (literal ['u', 'l', 'l'] rest)
      else if c = 't' then
        namedIn expected (fun _ => some (.boolean true)) (literal ['r', 'u', 'e'] rest)
      else if c = 'f' then
        namedIn expected (fun _ => some (.boolean false)) (literal ['a', 'l', 's', 'e'] rest)
      else if c = '-' then namedIn expected Numeral.value? (readNumeral .truncated true rest)
      else if isDigit c then namedIn expected Numeral.value? (readNumeral .truncated false (c :: rest))
      else if c = '"' then namedIn expected (fun t => some (.string t)) (stringBody true rest)
      else if c = '[' then .data (.invalidType .array expected)
      else if c = '{' then .data (.invalidType .object expected)
      else .malformed

end Declarator.Json
