import Declarator.Json.Basic
import Declarator.Json.String

/-!
# The written form of JSON values

Which texts are written forms of a JSON value, said without reading them. A value can be written in
many ways: blanks may stand between its parts, and a character of a string may be escaped.

- `Json.SpelledString` : a text is a written form of a string.
- `Json.Listed` : a text holds parts with commas between them.
- `Json.Spelled` : a text is a written form of a value.
-/

namespace Declarator.Json

/-- Blanks that may stand between the parts of a value, or nothing. -/
def IsPadding (t : Text) : Prop :=
  ∀ c ∈ t, isBlank c = true

/-! ## Strings -/

/-- Four hexadecimal digits of a number. -/
inductive SpelledUnit : Nat → Text → Prop where
  | mk {a b c d : Char} {i j k l : Nat} (ha : hexDigit? a = some i) (hb : hexDigit? b = some j)
      (hc : hexDigit? c = some k) (hd : hexDigit? d = some l) :
      SpelledUnit (((i * 16 + j) * 16 + k) * 16 + l) [a, b, c, d]

/-- One character of a string. -/
inductive SpelledChar : Char → Text → Prop where
  /-- The character itself. -/
  | literal {c : Char} (hquote : c ≠ '"') (hslash : c ≠ '\\') (hcontrol : 0x20 ≤ c.toNat) :
      SpelledChar c [c]
  /-- A letter behind a backslash. -/
  | short {c letter : Char} (h : shortEscape? letter = some c) : SpelledChar c ['\\', letter]
  /-- The code point. -/
  | unit {c : Char} {digits : Text} (h : SpelledUnit c.toNat digits) :
      SpelledChar c ('\\' :: 'u' :: digits)
  /-- The two surrogates of a code point beyond four digits. -/
  | pair {c : Char} {i j : Nat} {high low : Text} (hi : i < 0x400) (hj : j < 0x400)
      (hhigh : SpelledUnit (0xD800 + i) high) (hlow : SpelledUnit (0xDC00 + j) low)
      (hc : c.toNat = i * 0x400 + j + 0x10000) :
      SpelledChar c ('\\' :: 'u' :: high ++ '\\' :: 'u' :: low)

/-- The characters of a string one after another. -/
inductive SpelledChars : Text → Text → Prop where
  | nil : SpelledChars [] []
  | cons {c : Char} {s t u : Text} (hc : SpelledChar c s) (ht : SpelledChars t u) :
      SpelledChars (c :: t) (s ++ u)

/-- A string between its quotes. -/
inductive SpelledString : Text → Text → Prop where
  | mk {t s : Text} (h : SpelledChars t s) : SpelledString t ('"' :: s ++ ['"'])

/-! ## Values -/

/-- The parts behind the first, each behind a comma, up to the closing bracket. -/
inductive ListedFurther : List Text → Text → Prop where
  | nil {gap : Text} (hgap : IsPadding gap) : ListedFurther [] gap
  | cons {part before gap : Text} {parts : List Text} {rest : Text} (hbefore : IsPadding before)
      (hgap : IsPadding gap) (h : ListedFurther parts rest) :
      ListedFurther (part :: parts) (before ++ ',' :: gap ++ part ++ rest)

/-- What stands between two brackets: parts with commas between them. -/
inductive Listed : List Text → Text → Prop where
  | nil {gap : Text} (hgap : IsPadding gap) : Listed [] gap
  | cons {part gap : Text} {parts : List Text} {rest : Text} (hgap : IsPadding gap)
      (h : ListedFurther parts rest) : Listed (part :: parts) (gap ++ part ++ rest)

mutual

/-- A text is a written form of a value. -/
inductive Spelled : Json → Text → Prop where
  | null : Spelled .null ['n', 'u', 'l', 'l']
  | string {t s : Text} (h : SpelledString t s) : Spelled (.string t) s
  | array {items : List Json} {parts : List Text} {inner : Text} (h : SpelledItems items parts)
      (hinner : Listed parts inner) : Spelled (.array items) ('[' :: inner ++ [']'])
  | object {members : List (Text × Json)} {parts : List Text} {inner : Text}
      (h : SpelledMembers members parts) (hinner : Listed parts inner) :
      Spelled (.object members) ('{' :: inner ++ ['}'])

/-- Values and as many written forms, in the same order. -/
inductive SpelledItems : List Json → List Text → Prop where
  | nil : SpelledItems [] []
  | cons {item : Json} {part : Text} {items : List Json} {parts : List Text}
      (h : Spelled item part) (hs : SpelledItems items parts) :
      SpelledItems (item :: items) (part :: parts)

/-- Members and as many written forms, in the same order: a key, a colon, and a value. -/
inductive SpelledMembers : List (Text × Json) → List Text → Prop where
  | nil : SpelledMembers [] []
  | cons {key keyText before gap part : Text} {value : Json} {members : List (Text × Json)}
      {parts : List Text} (hkey : SpelledString key keyText) (hbefore : IsPadding before)
      (hgap : IsPadding gap) (h : Spelled value part) (hs : SpelledMembers members parts) :
      SpelledMembers ((key, value) :: members)
        ((keyText ++ (before ++ ':' :: (gap ++ part))) :: parts)

end

end Declarator.Json
