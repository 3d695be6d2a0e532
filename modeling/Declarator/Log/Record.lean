import Declarator.Log.Level

/-!
# Log records

- `Log.Record.line` : a record as a line.
- `Log.passed` : the records that pass a threshold.
- `Log.written` : the text of records, one after another.
-/

namespace Declarator.Log

/-- A record: its level, the part of the program it is from, and what it says. -/
structure Record where
  level : Level
  target : Text
  message : Text
  deriving DecidableEq

/-- A record as a line, its target and level in brackets. -/
def Record.line (r : Record) : Text :=
  '[' :: r.target ++ [']', ' ', '['] ++ r.level.name ++ [']', ' '] ++ r.message ++ ['\n']

/-- The records that pass a threshold, in order. -/
def passed (t : Threshold) (records : List Record) : List Record :=
  records.filter (t.allows ·.level)

/-- The lines of records, in order. -/
def written (records : List Record) : Text :=
  records.flatMap Record.line

@[simp] theorem written_nil : written [] = [] := rfl

@[simp] theorem written_append (rs ss : List Record) :
    written (rs ++ ss) = written rs ++ written ss := by
  simp [written]

theorem passed_append (t : Threshold) (rs ss : List Record) :
    passed t (rs ++ ss) = passed t rs ++ passed t ss := by
  simp [passed]

end Declarator.Log
