import Declarator.Json.Reader

/-!
# Reading strings

A string is read up to its closing quote, escapes and all. A string whose value is wanted holds no
lone surrogate; one that is only passed over may.

- `Json.stringBody` : what follows the opening quote.
-/

namespace Declarator.Json

/-- The value of a hexadecimal digit, of either case. -/
def hexDigit? (c : Char) : Option Nat :=
  if '0' ≤ c ∧ c ≤ '9' then some (c.toNat - '0'.toNat)
  else if 'a' ≤ c ∧ c ≤ 'f' then some (c.toNat - 'a'.toNat + 10)
  else if 'A' ≤ c ∧ c ≤ 'F' then some (c.toNat - 'A'.toNat + 10)
  else none

/-- Four hexadecimal digits. A text of fewer than four bytes ends inside them. -/
def hexUnit : Reader Nat
  | a :: b :: c :: d :: rest =>
      match hexDigit? a, hexDigit? b, hexDigit? c, hexDigit? d with
      | some a, some b, some c, some d => .ok (((a * 16 + b) * 16 + c) * 16 + d, rest)
      | _, _, _, _ => .error .malformed
  | s => if Text.width s < 4 then .error .truncated else .error .malformed

def isHighSurrogate (n : Nat) : Bool :=
  0xD800 ≤ n && n ≤ 0xDBFF

def isLowSurrogate (n : Nat) : Bool :=
  0xDC00 ≤ n && n ≤ 0xDFFF

/-- The given character, and no blank before it. -/
def exactly (c : Char) : Reader Unit :=
  literal [c]

/-- The low half of a surrogate pair, as an escape of its own. -/
def lowSurrogate : Reader Nat := do
  exactly '\\'
  exactly 'u'
  let n ← hexUnit
  if isLowSurrogate n then return n else throw .malformed

/-- The character that four hexadecimal digits give, a high surrogate together with the low one
that must follow. -/
def unicodeEscape : Reader Char := do
  let n ← hexUnit
  if isLowSurrogate n then throw .malformed
  else if isHighSurrogate n then
    let low ← lowSurrogate
    return Char.ofNat ((n - 0xD800) * 0x400 + (low - 0xDC00) + 0x10000)
  else return Char.ofNat n

/-- What four hexadecimal digits give where nobody asks: any unit will do. -/
def anyUnit : Reader Char := do
  let _ ← hexUnit
  return '\uFFFD'

/-- The character that a letter stands for after a backslash. -/
def shortEscape? (c : Char) : Option Char :=
  if c = '"' ∨ c = '\\' ∨ c = '/' then some c
  else if c = 'b' then some '\x08'
  else if c = 'f' then some '\x0c'
  else if c = 'n' then some '\n'
  else if c = 'r' then some '\r'
  else if c = 't' then some '\t'
  else none

/-- What follows a backslash. -/
def escaped (wanted : Bool) : Reader Char
  | [] => .error .truncated
  | c :: rest =>
      match shortEscape? c with
      | some d => .ok (d, rest)
      | none =>
          if c = 'u' then if wanted then unicodeEscape rest else anyUnit rest
          else .error .malformed

theorem keeps_hexUnit : Keeps hexUnit := by
  intro s v rest h
  unfold hexUnit at h
  split at h
  · split at h
    · cases h
      simp only [List.length_cons]
      omega
    · cases h
  · split at h <;> cases h

theorem keeps_lowSurrogate : Keeps lowSurrogate := by
  refine (keeps_literal _).bind fun _ => (keeps_literal _).bind fun _ => keeps_hexUnit.bind ?_
  intro n
  split
  · exact keeps_pure n
  · exact keeps_throw _

theorem keeps_unicodeEscape : Keeps unicodeEscape := by
  refine keeps_hexUnit.bind fun n => ?_
  split
  · exact keeps_throw _
  · split
    · exact keeps_lowSurrogate.bind fun _ => keeps_pure _
    · exact keeps_pure _

theorem keeps_anyUnit : Keeps anyUnit :=
  keeps_hexUnit.bind fun _ => keeps_pure _

theorem shrinks_escaped (wanted : Bool) : Shrinks (escaped wanted) := by
  intro s v rest h
  match s with
  | [] => simp [escaped] at h
  | c :: s =>
      refine Nat.lt_succ_of_le ?_
      simp only [escaped] at h
      split at h
      · cases h
        exact Nat.le_refl _
      · split at h
        · split at h
          · exact keeps_unicodeEscape h
          · exact keeps_anyUnit h
        · cases h

/-- The string that follows an opening quote, up to its closing quote, and what is left after that.
A control character must not stand in it as it is. -/
def stringBody (wanted : Bool) (s : Text) : Except Problem (Text × Text) :=
  match s with
  | [] => .error .truncated
  | c :: rest =>
      if c = '"' then .ok ([], rest)
      else if c = '\\' then
        match _h : escaped wanted rest with
        | .error p => .error p
        | .ok (d, rest') => (stringBody wanted rest').map fun p => (d :: p.1, p.2)
      else if c.toNat < 0x20 then .error .malformed
      else (stringBody wanted rest).map fun p => (c :: p.1, p.2)
termination_by s.length
decreasing_by
  · have := shrinks_escaped wanted _h
    simp only [List.length_cons]
    omega
  · simp

theorem length_stringBody_lt {wanted : Bool} {s v rest : Text}
    (h : stringBody wanted s = .ok (v, rest)) : rest.length < s.length := by
  fun_induction stringBody wanted s generalizing v with
  | case1 => cases h
  | case2 tail => cases h; simp
  | case3 _ _ => cases h
  | case4 tail _ mid hd _ ih =>
      obtain ⟨w, hw⟩ := exists_of_map_eq_ok h
      have := shrinks_escaped wanted hd
      have := ih hw
      simp only [List.length_cons]
      omega
  | case5 => cases h
  | case6 c tail _ _ _ ih =>
      obtain ⟨w, hw⟩ := exists_of_map_eq_ok h
      exact Nat.lt_succ_of_lt (ih hw)

end Declarator.Json
