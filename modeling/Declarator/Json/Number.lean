import Declarator.Json.Reader

/-!
# Reading numbers

A number is read digit by digit and then valued. An integer that 64 bits hold is exact; any other
number becomes a binary floating-point number by way of a significand of 64 bits, whose further
digits are dropped, and one multiplication or division by a power of ten.

- `Json.readNumeral` : the spelling of a number.
- `Json.Numeral.value?` : its value, unless it is too large.
-/

namespace Declarator.Json

def isDigit (c : Char) : Bool :=
  '0' ≤ c && c ≤ '9'

/-- A number as it is spelled: digits before the point, digits after it, and the exponent's sign
and digits. -/
structure Numeral where
  negative : Bool
  whole : Text
  fraction : Option Text
  exponent : Option (Bool × Text)
  deriving DecidableEq

/-! ## Spelling -/

/-- At least one digit. A text that ends before it has the problem `early`. -/
def digits (early : Problem) : Reader Text :=
  fun s =>
    match s.takeWhile isDigit with
    | [] => .error (if s.isEmpty then early else .malformed)
    | taken => .ok (taken, s.dropWhile isDigit)

/-- The digits before the point; a zero stands alone. -/
def wholePart (early : Problem) : Reader Text
  | '0' :: rest =>
      if rest.head?.any isDigit then .error .malformed else .ok (['0'], rest)
  | s => digits early s

/-- The digits after a point, if there is a point. -/
def fractionPart (early : Problem) : Reader (Option Text)
  | '.' :: rest => (digits early rest).map fun p => (some p.1, p.2)
  | s => .ok (none, s)

/-- Whether a minus stands here; a plus is passed over. -/
def exponentSign (s : Text) : Bool × Text :=
  match s with
  | '+' :: rest => (false, rest)
  | '-' :: rest => (true, rest)
  | _ => (false, s)

/-- The exponent, if there is one. -/
def exponentPart (early : Problem) : Reader (Option (Bool × Text))
  | [] => .ok (none, [])
  | c :: rest =>
      if c = 'e' ∨ c = 'E' then
        (digits early (exponentSign rest).2).map fun p => (some ((exponentSign rest).1, p.1), p.2)
      else .ok (none, c :: rest)

/-- A number after its sign. -/
def readNumeral (early : Problem) (negative : Bool) : Reader Numeral := do
  let whole ← wholePart early
  let fraction ← fractionPart early
  let exponent ← exponentPart early
  return ⟨negative, whole, fraction, exponent⟩

theorem shrinks_digits (early : Problem) : Shrinks (digits early) := by
  intro s v rest h
  simp only [digits] at h
  split at h
  · cases h
  · next hne =>
      cases h
      have hs := congrArg List.length (List.takeWhile_append_dropWhile (p := isDigit) (l := s))
      have := List.length_pos_iff.2 hne
      simp only [List.length_append] at hs
      omega

theorem shrinks_wholePart (early : Problem) : Shrinks (wholePart early) := by
  intro s v rest h
  unfold wholePart at h
  split at h
  · split at h
    · cases h
    · cases h
      exact Nat.lt_succ_self _
  · exact shrinks_digits early h

theorem keeps_fractionPart (early : Problem) : Keeps (fractionPart early) := by
  intro s v rest h
  unfold fractionPart at h
  split at h
  · obtain ⟨w, hw⟩ := exists_of_map_eq_ok h
    exact Nat.le_succ_of_le (Nat.le_of_lt (shrinks_digits early hw))
  · cases h
    exact Nat.le_refl _

theorem length_exponentSign_le (s : Text) : (exponentSign s).2.length ≤ s.length := by
  unfold exponentSign
  split <;> simp

theorem keeps_exponentPart (early : Problem) : Keeps (exponentPart early) := by
  intro s v rest h
  unfold exponentPart at h
  split at h
  · cases h
    exact Nat.le_refl _
  · next c tail =>
      split at h
      · obtain ⟨w, hw⟩ := exists_of_map_eq_ok (f := fun ds => some ((exponentSign tail).1, ds)) h
        have := shrinks_digits early hw
        have := length_exponentSign_le tail
        simp only [List.length_cons]
        omega
      · cases h
        exact Nat.le_refl _

theorem shrinks_readNumeral (early : Problem) (negative : Bool) : Shrinks (readNumeral early negative) :=
  (shrinks_wholePart early).bind fun _ =>
    (keeps_fractionPart early).bind fun _ => (keeps_exponentPart early).bind fun _ => keeps_pure _

/-! ## Value -/

def digitValue (c : Char) : Nat :=
  c.toNat - '0'.toNat

/-- The number that digits spell. -/
def natOfDigits (ds : Text) : Nat :=
  ds.foldl (fun n d => 10 * n + digitValue d) 0

/-- Words of 64 bits are below this. -/
def wordBound : Nat := 0x10000000000000000

/-- Adds digits to a significand as long as 64 bits hold it; the digits that are left over are the
second part. -/
def absorb (significand : Nat) : Text → Nat × Text
  | [] => (significand, [])
  | d :: ds =>
      let more := 10 * significand + digitValue d
      if more < wordBound then absorb more ds else (significand, d :: ds)

/-- The greatest exponent that can be spelled out; beyond it only zero is a number. -/
def maxSpelled : Nat := 0x7FFFFFFF

/-- The floating-point number `significand * 10 ^ exponent`. -/
def magnitude? (significand : Nat) (exponent : Int) : Option Binary64 := do
  (← Binary64.nearest? significand 1).scale? exponent

namespace Numeral

/-- The significand and the power of ten that go with it, the exponent left aside. -/
def parts (n : Numeral) : Nat × Int :=
  let whole := absorb 0 n.whole
  match n.fraction with
  | none => (whole.1, whole.2.length)
  | some ds =>
      let all := absorb whole.1 ds
      (all.1, (whole.2.length : Int) - (ds.length - all.2.length : Nat))

/-- The floating-point number that a numeral spells, its sign aside. -/
def float? (n : Numeral) : Option Binary64 :=
  let p := n.parts
  match n.exponent with
  | none => magnitude? p.1 p.2
  | some (negative, ds) =>
      let e := natOfDigits ds
      if maxSpelled < e then if p.1 = 0 ∨ negative then some .zero else none
      else magnitude? p.1 (if negative then p.2 - e else p.2 + e)

/-- The integer that a numeral spells, if 64 bits hold it. Minus zero is no integer. -/
def integer? (n : Numeral) : Option Int :=
  let p := absorb 0 n.whole
  if n.fraction.isSome || n.exponent.isSome || !p.2.isEmpty then none
  else if !n.negative then some p.1
  else if p.1 = 0 || wordBound < 2 * p.1 then none
  else some (-p.1)

/-- The value of a numeral, or nothing if it is too large. -/
def value? (n : Numeral) : Option Found :=
  match n.integer? with
  | some k => some (.integer k)
  | none => n.float?.map (.float n.negative)

end Numeral

end Declarator.Json
