import Declarator.Log.Record
import Declarator.Signature.Trace

/-!
# Log sessions

A process begins with no logger installed and its threshold off. The first installation sets the
threshold; a later one is refused and leaves it. The threshold can also be set at any time. What is
handed to the logger itself is written if it passes; what the reading of signatures says is written
if a logger is installed besides.

- `Log.Session.step` : one step, with its answer and the records it writes.
- `Log.Session.run` : a sequence of steps.
-/

namespace Declarator.Log

/-- Whether a logger is installed, and the threshold of the process. -/
structure Session where
  installed : Bool
  threshold : Threshold
  deriving DecidableEq

/-- What can happen in a session. -/
inductive Step where
  | install (t : Threshold)
  | setThreshold (t : Threshold)
  | getThreshold
  | enabled (level : Level)
  | log (r : Record)
  | flush
  | parse (text : Text)
  | parseArguments (text : Text)

/-- What a step answers. -/
inductive Answer where
  | threshold (t : Threshold)
  /-- A logger was installed before; the threshold stays. -/
  | alreadyInstalled (t : Threshold)
  | enabled (b : Bool)
  | done
  | parsed (result : Except Signature.Error Signature)
  | parsedArguments (result : Except Signature.Error (List Argument))
  deriving DecidableEq

/-- What is said where a logger is installed a second time. -/
def alreadyInstalledMessage : Text :=
  "attempted to set a logger after the logging system was already initialized".toList

namespace Session

/-- The session at the start of a process. -/
def fresh : Session := ⟨false, .off⟩

/-- The records that are written of those that the program hands to an installed logger. -/
def heard (s : Session) (records : List Record) : List Record :=
  if s.installed then passed s.threshold records else []

@[simp] theorem heard_nil (s : Session) : s.heard [] = [] := by
  cases h : s.installed <;> simp [heard, h, passed]

theorem heard_append (s : Session) (rs ss : List Record) :
    s.heard (rs ++ ss) = s.heard rs ++ s.heard ss := by
  cases h : s.installed <;> simp [heard, h, passed_append]

/-- The session after a step, the answer to the step, and the records that it writes. -/
def step (s : Session) : Step → Session × Answer × List Record
  | .install t =>
      if s.installed then (s, .alreadyInstalled s.threshold, [])
      else (⟨true, t⟩, .threshold t, [])
  | .setThreshold t => (⟨s.installed, t⟩, .threshold t, [])
  | .getThreshold => (s, .threshold s.threshold, [])
  | .enabled level => (s, .enabled (s.threshold.allows level), [])
  | .log r => (s, .done, passed s.threshold [r])
  | .flush => (s, .done, [])
  | .parse text => (s, .parsed (Signature.parse text), s.heard (Signature.records text))
  | .parseArguments text => (s, .parsedArguments (Signature.parseArguments text), [])

/-- The session after a sequence of steps, the answers, and the records that were written. -/
def run (s : Session) : List Step → Session × List Answer × List Record
  | [] => (s, [], [])
  | x :: xs =>
      let (s', answer, records) := s.step x
      let (s'', answers, more) := s'.run xs
      (s'', answer :: answers, records ++ more)

end Session

end Declarator.Log
