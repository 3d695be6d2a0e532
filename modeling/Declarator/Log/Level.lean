import Declarator.Text.Basic

/-!
# Log levels

A record has a level; a log has a threshold, which is a level or off. A record passes a threshold
if its level is no more detailed.

- `Log.Threshold.allows` : whether a level passes a threshold.
- `Log.thresholdFor` : the threshold for a number of requests for more detail.
-/

namespace Declarator.Log

/-- How important a record is. -/
inductive Level where
  | error
  | warn
  | info
  | debug
  | trace
  deriving DecidableEq

/-- How detailed a log is: nothing at all, or everything up to a level. -/
inductive Threshold where
  | off
  | upTo (level : Level)
  deriving DecidableEq

/-- How detailed a level is. -/
def Level.detail : Level → Nat
  | .error => 1
  | .warn => 2
  | .info => 3
  | .debug => 4
  | .trace => 5

def Level.name : Level → Text
  | .error => "ERROR".toList
  | .warn => "WARN".toList
  | .info => "INFO".toList
  | .debug => "DEBUG".toList
  | .trace => "TRACE".toList

namespace Threshold

/-- How detailed a threshold is. -/
def detail : Threshold → Nat
  | .off => 0
  | .upTo level => level.detail

def name : Threshold → Text
  | .off => "OFF".toList
  | .upTo level => level.name

/-- Whether records of a level pass. -/
def allows (t : Threshold) (level : Level) : Bool :=
  level.detail ≤ t.detail

theorem allows_mono {s t : Threshold} (h : s.detail ≤ t.detail) {level : Level}
    (hs : s.allows level = true) : t.allows level = true := by
  simp only [allows, decide_eq_true_eq] at *
  exact Nat.le_trans hs h

@[simp] theorem allows_off (level : Level) : Threshold.off.allows level = false := by
  cases level <;> rfl

end Threshold

/-- The threshold where nobody has asked for another. -/
def defaultThreshold : Threshold := .upTo .warn

/-- The threshold after `verbosity` requests for more detail. -/
def thresholdFor (verbosity : Nat) : Threshold :=
  match verbosity with
  | 0 => defaultThreshold
  | 1 => .upTo .info
  | 2 => .upTo .debug
  | _ => .upTo .trace

end Declarator.Log
