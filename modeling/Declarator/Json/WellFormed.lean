import Declarator.Json.Grammar
import Declarator.Json.Number

/-!
# Well-formed JSON

Which texts are JSON values of whatever kind, said without reading them. Nothing is asked of what a
value means: a number may be of any size, and an escape may give a surrogate that stands alone.

- `Json.IsNumber`, `Json.IsString` : a text is a number, or a string.
- `Json.WellFormed` : a text is a value.
-/

namespace Declarator.Json

/-! ## Numbers -/

/-- Digits, and at least one of them. -/
def IsDigits (t : Text) : Prop :=
  t ≠ [] ∧ ∀ c ∈ t, isDigit c = true

instance (t : Text) : Decidable (IsDigits t) :=
  decidable_of_iff (t ≠ [] ∧ t.all isDigit = true) (and_congr_right fun _ => List.all_eq_true)

/-- The digits before the point. A zero is only in front when it is alone. -/
inductive IsWhole : Text → Prop where
  | zero : IsWhole ['0']
  | digits {t : Text} (h : IsDigits t) (hzero : t.head? ≠ some '0') : IsWhole t

/-- A point and the digits after it, or nothing. -/
inductive IsFraction : Text → Prop where
  | none : IsFraction []
  | some {t : Text} (h : IsDigits t) : IsFraction ('.' :: t)

/-- The exponent's letter, sign and digits, or nothing. -/
inductive IsExponent : Text → Prop where
  | none : IsExponent []
  | unsigned {e : Char} {t : Text} (he : e = 'e' ∨ e = 'E') (h : IsDigits t) : IsExponent (e :: t)
  | signed {e sign : Char} {t : Text} (he : e = 'e' ∨ e = 'E') (hsign : sign = '+' ∨ sign = '-')
      (h : IsDigits t) : IsExponent (e :: sign :: t)

/-- A number without its sign. -/
inductive IsMagnitude : Text → Prop where
  | mk {whole fraction exponent : Text} (hwhole : IsWhole whole) (hfraction : IsFraction fraction)
      (hexponent : IsExponent exponent) : IsMagnitude (whole ++ (fraction ++ exponent))

/-- A number. -/
inductive IsNumber : Text → Prop where
  | positive {t : Text} (h : IsMagnitude t) : IsNumber t
  | negative {t : Text} (h : IsMagnitude t) : IsNumber ('-' :: t)

/-! ## Strings -/

/-- The characters and escapes between the quotes of a string. -/
inductive IsBody : Text → Prop where
  | nil : IsBody []
  | literal {c : Char} {s : Text} (hquote : c ≠ '"') (hslash : c ≠ '\\')
      (hcontrol : 0x20 ≤ c.toNat) (hs : IsBody s) : IsBody (c :: s)
  | short {c letter : Char} {s : Text} (h : shortEscape? letter = some c) (hs : IsBody s) :
      IsBody ('\\' :: letter :: s)
  /-- Any four hexadecimal digits, also those of a surrogate. -/
  | unit {n : Nat} {digits s : Text} (h : SpelledUnit n digits) (hs : IsBody s) :
      IsBody ('\\' :: 'u' :: digits ++ s)

/-- A string between its quotes. -/
inductive IsString : Text → Prop where
  | mk {s : Text} (h : IsBody s) : IsString ('"' :: s ++ ['"'])

/-! ## Values -/

/-- What stands in front of the value of a member: the key, the colon, and blanks. -/
inductive IsLabel : Text → Prop where
  | mk {keyText before gap : Text} (hkey : IsString keyText) (hbefore : IsPadding before)
      (hgap : IsPadding gap) : IsLabel (keyText ++ (before ++ ':' :: gap))

/-- A text is a value. A member is a label and the value behind it. -/
inductive WellFormed : Text → Prop where
  | null : WellFormed ['n', 'u', 'l', 'l']
  | true : WellFormed ['t', 'r', 'u', 'e']
  | false : WellFormed ['f', 'a', 'l', 's', 'e']
  | number {t : Text} (h : IsNumber t) : WellFormed t
  | string {t : Text} (h : IsString t) : WellFormed t
  | array {parts : List Text} {inner : Text} (h : ∀ part ∈ parts, WellFormed part)
      (hinner : Listed parts inner) : WellFormed ('[' :: inner ++ [']'])
  | object {members : List (Text × Text)} {inner : Text} (hlabel : ∀ m ∈ members, IsLabel m.1)
      (h : ∀ m ∈ members, WellFormed m.2)
      (hinner : Listed (members.map fun m => m.1 ++ m.2) inner) : WellFormed ('{' :: inner ++ ['}'])

end Declarator.Json
