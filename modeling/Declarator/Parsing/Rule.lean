import Declarator.Text.Basic

/-!
# Rules

When a parser does not match, the error that it gives on its own names the kind of rule that did
not match.

- `Rule.name` : the name of a rule.
- `Rule.ofName?_name` : a rule is found again by its name.
-/

namespace Declarator.Parsing

/-- The kinds of parsing rule that an error can name. -/
inductive Rule where
  | tag | mapRes | mapOpt | alt | isNot | isA | separatedList | separatedNonEmptyList | many0
  | many1 | manyTill | count | takeUntil | lengthValue | tagClosure | alpha | digit | hexDigit
  | octDigit | alphaNumeric | space | multiSpace | lengthValueFn | eof | switch | tagBits | oneOf
  | noneOf | char | crLf | regexpMatch | regexpMatches | regexpFind | regexpCapture
  | regexpCaptures | takeWhile1 | complete | fix | escaped | escapedTransform | nonEmpty | manyMN
  | not | permutation | verify | takeTill1 | takeWhileMN | tooLarge | many0Count | many1Count
  | float | satisfy | fail
  deriving DecidableEq

namespace Rule

/-- Every rule once. -/
def all : List Rule := [
  .tag, .mapRes, .mapOpt, .alt, .isNot, .isA, .separatedList, .separatedNonEmptyList, .many0,
  .many1, .manyTill, .count, .takeUntil, .lengthValue, .tagClosure, .alpha, .digit, .hexDigit,
  .octDigit, .alphaNumeric, .space, .multiSpace, .lengthValueFn, .eof, .switch, .tagBits, .oneOf,
  .noneOf, .char, .crLf, .regexpMatch, .regexpMatches, .regexpFind, .regexpCapture,
  .regexpCaptures, .takeWhile1, .complete, .fix, .escaped, .escapedTransform, .nonEmpty, .manyMN,
  .not, .permutation, .verify, .takeTill1, .takeWhileMN, .tooLarge, .many0Count, .many1Count,
  .float, .satisfy, .fail
]

/-- The name of a rule. -/
def name : Rule → Text
  | .tag => "Tag".toList
  | .mapRes => "MapRes".toList
  | .mapOpt => "MapOpt".toList
  | .alt => "Alt".toList
  | .isNot => "IsNot".toList
  | .isA => "IsA".toList
  | .separatedList => "SeparatedList".toList
  | .separatedNonEmptyList => "SeparatedNonEmptyList".toList
  | .many0 => "Many0".toList
  | .many1 => "Many1".toList
  | .manyTill => "ManyTill".toList
  | .count => "Count".toList
  | .takeUntil => "TakeUntil".toList
  | .lengthValue => "LengthValue".toList
  | .tagClosure => "TagClosure".toList
  | .alpha => "Alpha".toList
  | .digit => "Digit".toList
  | .hexDigit => "HexDigit".toList
  | .octDigit => "OctDigit".toList
  | .alphaNumeric => "AlphaNumeric".toList
  | .space => "Space".toList
  | .multiSpace => "MultiSpace".toList
  | .lengthValueFn => "LengthValueFn".toList
  | .eof => "Eof".toList
  | .switch => "Switch".toList
  | .tagBits => "TagBits".toList
  | .oneOf => "OneOf".toList
  | .noneOf => "NoneOf".toList
  | .char => "Char".toList
  | .crLf => "CrLf".toList
  | .regexpMatch => "RegexpMatch".toList
  | .regexpMatches => "RegexpMatches".toList
  | .regexpFind => "RegexpFind".toList
  | .regexpCapture => "RegexpCapture".toList
  | .regexpCaptures => "RegexpCaptures".toList
  | .takeWhile1 => "TakeWhile1".toList
  | .complete => "Complete".toList
  | .fix => "Fix".toList
  | .escaped => "Escaped".toList
  | .escapedTransform => "EscapedTransform".toList
  | .nonEmpty => "NonEmpty".toList
  | .manyMN => "ManyMN".toList
  | .not => "Not".toList
  | .permutation => "Permutation".toList
  | .verify => "Verify".toList
  | .takeTill1 => "TakeTill1".toList
  | .takeWhileMN => "TakeWhileMN".toList
  | .tooLarge => "TooLarge".toList
  | .many0Count => "Many0Count".toList
  | .many1Count => "Many1Count".toList
  | .float => "Float".toList
  | .satisfy => "Satisfy".toList
  | .fail => "Fail".toList

/-- The rule of a given name. -/
def ofName? (n : Text) : Option Rule :=
  all.find? (·.name == n)

theorem ofName?_name (r : Rule) : ofName? r.name = some r := by
  cases r <;> decide

/-- No two rules have the same name. -/
theorem name_injective {r s : Rule} (h : r.name = s.name) : r = s := by
  have := ofName?_name r
  rw [h, ofName?_name s] at this
  exact (Option.some.inj this).symm

end Rule

end Declarator.Parsing
