import Declarator.Text.Basic

/-!
# Blank characters

The blank characters are the twenty-five of Unicode's White_Space property. Texts are trimmed of
them at either end and cut into words at them.

- `Text.words` : the maximal runs of characters that are not blank, in order.
- `Text.trimEnd_eq_nil_iff` : trimming leaves nothing exactly of a text that is all blank.
-/

namespace Declarator

/-- The characters with Unicode's White_Space property. -/
def isBlank (c : Char) : Bool :=
  let n := c.toNat
  (0x09 ≤ n && n ≤ 0x0D) || n == 0x20 || n == 0x85 || n == 0xA0 || n == 0x1680
    || (0x2000 ≤ n && n ≤ 0x200A) || n == 0x2028 || n == 0x2029 || n == 0x202F || n == 0x205F
    || n == 0x3000

namespace Text

/-- Every character is blank; so it is with the empty text. -/
def isAllBlank (t : Text) : Bool :=
  t.all isBlank

/-- Drops the blank characters at the end. -/
def trimEnd : Text → Text
  | [] => []
  | c :: t =>
      match trimEnd t with
      | [] => if isBlank c then [] else [c]
      | d :: kept => c :: d :: kept

/-- Drops the blank characters at either end. -/
def trim (t : Text) : Text :=
  trimEnd (t.dropWhile isBlank)

/-- The maximal runs of characters that are not blank, in order. -/
def words (t : Text) : List Text :=
  (t.splitOnP isBlank).filter (!·.isEmpty)

theorem trimEnd_eq_nil_iff {t : Text} : trimEnd t = [] ↔ isAllBlank t = true := by
  induction t with
  | nil => simp [trimEnd, isAllBlank]
  | cons c t ih =>
      simp only [isAllBlank, List.all_cons, Bool.and_eq_true] at ih ⊢
      cases h : trimEnd t with
      | nil => simp [trimEnd, h, ← ih]
      | cons d kept => simp [trimEnd, h, ← ih]

end Text

end Declarator
