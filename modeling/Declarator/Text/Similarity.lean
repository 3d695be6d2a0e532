import Declarator.Text.Basic

/-!
# Similar texts

Two texts are alike as far as their characters can be paired, each with an equal one that does not
stand far from it, and as far as the pairs are in the same order in both.

- `Text.pairs` : the paired characters of either text.
- `Text.likeness` : how alike two texts are.
-/

namespace Declarator.Text

/-- How far apart the two characters of a pair may stand. -/
def reach (s t : Text) : Nat :=
  max s.length t.length / 2 - 1

/-- Takes the first free place that holds `c`, of those that are left after the first `skipped` and
are among the first `seen`. A place is a character and whether it is taken. -/
def takePartner? (c : Char) (skipped seen : Nat) :
    List (Char × Bool) → Option (List (Char × Bool))
  | [] => none
  | (d, taken) :: places =>
      if seen = 0 then none
      else if skipped = 0 ∧ c = d ∧ taken = false then some ((d, true) :: places)
      else (takePartner? c (skipped - 1) (seen - 1) places).map ((d, taken) :: ·)

/-- The characters of `s` that find a partner, and the places afterwards. The first character of
`s` stands at `index`. -/
def pairUp (reach index : Nat) (places : List (Char × Bool)) :
    (s : Text) → Text × List (Char × Bool)
  | [] => ([], places)
  | c :: s =>
      match takePartner? c (index - reach) (index + reach + 1) places with
      | none => pairUp reach (index + 1) places s
      | some places =>
          let paired := pairUp reach (index + 1) places s
          (c :: paired.1, paired.2)

/-- The paired characters of `s` and those of `t`, each in their own order. -/
def pairs (s t : Text) : Text × Text :=
  let paired := pairUp (reach s t) 0 (t.map fun c => (c, false)) s
  (paired.1, (paired.2.filter (·.2)).map (·.1))

/-- How many paired characters have to change places for both orders to agree. -/
def exchanges (s t : Text) : Nat :=
  ((pairs s t).1.zip (pairs s t).2).countP (fun p => p.1 ≠ p.2) / 2

/-- How alike two texts are: the fraction `num / den`, and the number of exchanges. -/
structure Likeness where
  num : Nat
  den : Nat
  exchanges : Nat
  deriving DecidableEq

/-- The mean of three shares: of the characters of `s` and of `t` that are paired, and of the pairs
that are left without the exchanges. -/
def likeness (s t : Text) : Likeness :=
  let paired := (pairs s t).1.length
  if paired = 0 then ⟨0, 1, 0⟩
  else
    { num :=
        paired * paired * t.length + paired * paired * s.length
          + (paired - exchanges s t) * s.length * t.length
      den := 3 * s.length * t.length * paired
      exchanges := exchanges s t }

/-- Whether a likeness is at least seven tenths. -/
def Likeness.isClose (l : Likeness) : Bool :=
  7 * l.den ≤ 10 * l.num

/-- Whether `m` is at least as close as `l`. Of equal fractions, fewer exchanges are closer. -/
def Likeness.atMost (l m : Likeness) : Bool :=
  l.num * m.den < m.num * l.den
    || (l.num * m.den == m.num * l.den && m.exchanges ≤ l.exchanges)

end Declarator.Text
