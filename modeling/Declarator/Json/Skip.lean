import Declarator.Json.Number
import Declarator.Json.String

/-!
# Passing over values

A value that nobody asked for is passed over, however deep it is. The brackets that are open are
kept in a list, the innermost first.

- `Json.skipStep` : passes over a scalar or a bracket.
- `Json.skipValue` : passes over one value.
-/

namespace Declarator.Json

/-- A bracket that has been opened. -/
inductive Bracket where
  | square
  | curly
  deriving DecidableEq

/-- The character that closes a bracket. -/
def Bracket.closing : Bracket → Char
  | .square => ']'
  | .curly => '}'

/-- A scalar from its first character on, or nothing at the start of anything else. -/
def skipScalar? (c : Char) : Option (Reader Unit) :=
  if c = 'n' then some (literal ['u', 'l', 'l'])
  else if c = 't' then some (literal ['r', 'u', 'e'])
  else if c = 'f' then some (literal ['a', 'l', 's', 'e'])
  else if c = '-' then some fun s => (readNumeral .malformed true s).map fun p => ((), p.2)
  else if isDigit c then some fun s => (readNumeral .malformed false (c :: s)).map fun p => ((), p.2)
  else if c = '"' then some fun s => (stringBody false s).map fun p => ((), p.2)
  else none

theorem keeps_of_skipScalar? {c : Char} {r : Reader Unit} (h : skipScalar? c = some r) :
    Keeps r := by
  unfold skipScalar? at h
  split at h
  · cases h
    exact keeps_literal _
  split at h
  · cases h
    exact keeps_literal _
  split at h
  · cases h
    exact keeps_literal _
  split at h
  · cases h
    intro s v rest hs
    obtain ⟨w, hw⟩ := exists_of_map_eq_ok (f := fun _ => ()) hs
    exact (shrinks_readNumeral _ _).keeps hw
  split at h
  · cases h
    intro s v rest hs
    obtain ⟨w, hw⟩ := exists_of_map_eq_ok (f := fun _ => ()) hs
    exact Nat.le_of_lt_succ (shrinks_readNumeral _ _ hw)
  split at h
  · cases h
    intro s v rest hs
    obtain ⟨w, hw⟩ := exists_of_map_eq_ok (f := fun _ => ()) hs
    exact Nat.le_of_lt (length_stringBody_lt hw)
  · cases h

/-- The key of a member and the colon after it. -/
def skipKey : Reader Unit := do
  mark '"'
  let _ ← fun s => stringBody false s
  colon

theorem shrinks_skipKey : Shrinks skipKey :=
  (shrinks_mark _).bind fun _ =>
    Keeps.bind (fun _ _ _ h => Nat.le_of_lt (length_stringBody_lt h)) fun _ =>
      (shrinks_mark _).keeps

/-- The front of an entry inside a bracket: the key of a member, or nothing. -/
def skipLabel : Bracket → Reader Unit
  | .square => pure ()
  | .curly => skipKey

theorem keeps_skipLabel (b : Bracket) : Keeps (skipLabel b) := by
  cases b with
  | square => exact keeps_pure ()
  | curly => exact shrinks_skipKey.keeps

/-- The bracket that a character opens. -/
def opened? (c : Char) : Option Bracket :=
  if c = '[' then some .square else if c = '\x7b' then some .curly else none

/-- Where a value is passed over: at the front of a value that is due, or behind a value inside
brackets. -/
inductive Spot where
  | due (around : List Bracket)
  | inside (b : Bracket) (around : List Bracket)
  deriving DecidableEq

/-- Behind a value; nothing is left to do if no bracket is open. -/
def behind : List Bracket → Option Spot
  | [] => none
  | b :: around => some (.inside b around)

/-- What follows an opening bracket: the bracket that closes it, or the front of an entry. -/
def skipOpened (b : Bracket) (around : List Bracket) : Reader (Option Spot) :=
  fun s =>
    match skipBlanks s with
    | [] => .error .truncated
    | c :: rest =>
        if c = b.closing then .ok (behind around, rest)
        else (skipLabel b (c :: rest)).map fun p => (some (.due (b :: around)), p.2)

/-- Passes over a scalar, or over a bracket or comma and what goes with it. -/
def skipStep (spot : Spot) : Reader (Option Spot) :=
  fun s =>
    match skipBlanks s with
    | [] => .error .truncated
    | c :: rest =>
        match spot with
        | .due around =>
            match opened? c, skipScalar? c with
            | some b, _ => skipOpened b around rest
            | none, some r => (r rest).map fun p => (behind around, p.2)
            | none, none => .error .malformed
        | .inside b around =>
            if c = b.closing then .ok (behind around, rest)
            else if c = ',' then
              (skipLabel b rest).map fun p => (some (.due (b :: around)), p.2)
            else .error .malformed

theorem keeps_skipOpened (b : Bracket) (around : List Bracket) : Keeps (skipOpened b around) := by
  intro s v rest h
  simp only [skipOpened] at h
  split at h
  · cases h
  · next c tail hs =>
      have hlt := length_lt_of_skipBlanks hs
      split at h
      · cases h
        exact Nat.le_of_lt hlt
      · obtain ⟨w, hw⟩ := exists_of_map_eq_ok (f := fun _ => some (Spot.due (b :: around))) h
        exact Nat.le_trans (keeps_skipLabel b hw) hlt

theorem shrinks_skipStep (spot : Spot) : Shrinks (skipStep spot) := by
  intro s v rest h
  simp only [skipStep] at h
  split at h
  · cases h
  · next c tail hs =>
      refine Nat.lt_of_le_of_lt ?_ (length_lt_of_skipBlanks hs)
      split at h
      · next around =>
          split at h
          · exact keeps_skipOpened _ _ h
          · next r _ hr =>
              obtain ⟨w, hw⟩ := exists_of_map_eq_ok (f := fun _ => behind around) h
              exact keeps_of_skipScalar? hr hw
          · cases h
      · next b around =>
          split at h
          · cases h
            exact Nat.le_refl _
          split at h
          · obtain ⟨w, hw⟩ := exists_of_map_eq_ok (f := fun _ => some (Spot.due (b :: around))) h
            exact keeps_skipLabel b hw
          · cases h

/-- Passes over what is left of a value. -/
def skipFrom (spot : Spot) (s : Text) : Except Problem (Unit × Text) :=
  match _h : skipStep spot s with
  | .error p => .error p
  | .ok (none, rest) => .ok ((), rest)
  | .ok (some next, rest) => skipFrom next rest
termination_by s.length
decreasing_by exact shrinks_skipStep spot _h

theorem length_skipFrom_lt {spot : Spot} {s rest : Text} {u : Unit}
    (h : skipFrom spot s = .ok (u, rest)) : rest.length < s.length := by
  fun_induction skipFrom spot s with
  | case1 => cases h
  | case2 _ _ _ hs =>
      cases h
      exact shrinks_skipStep _ hs
  | case3 _ _ _ _ hs ih => exact Nat.lt_trans (ih h) (shrinks_skipStep _ hs)

/-- Passes over one value. -/
def skipValue : Reader Unit :=
  fun s => skipFrom (.due []) s

theorem shrinks_skipValue : Shrinks skipValue :=
  fun _ _ _ h => length_skipFrom_lt h

end Declarator.Json
