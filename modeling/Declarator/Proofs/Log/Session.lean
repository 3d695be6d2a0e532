import Declarator.Log.Session
import Declarator.Proofs.Log.Threshold

/-!
# Sessions and their history

What a step answers and writes depends on the steps before it in two ways only: on whether one of
them was an installation, and on the threshold that was set last. Both are said here without a
session.

* `history`: the steps in order, each with the steps before it.
* `lastThreshold`: the threshold that was set last, where a later installation sets none.
* `Session.IsAfter`: a session has come to stand where some steps lead; a step keeps that.
* `Session.run_fresh`: **a whole run**, its answers, its threshold, its records and its text.
-/

namespace Declarator.Log

open Signature

/-! ### Histories -/

/-- The steps in order, each with the steps before it, which begin with `before`. -/
def historyFrom (before : List Step) : List Step → List (List Step × Step)
  | [] => []
  | x :: xs => (before, x) :: historyFrom (before ++ [x]) xs

/-- The steps in order, each with the steps before it. -/
def history (steps : List Step) : List (List Step × Step) :=
  historyFrom [] steps

theorem historyFrom_concat (before steps : List Step) (x : Step) :
    historyFrom before (steps ++ [x]) = historyFrom before steps ++ [(before ++ steps, x)] := by
  induction steps generalizing before with
  | nil => simp [historyFrom]
  | cons y ys ih => simp [historyFrom, ih]

theorem history_concat (steps : List Step) (x : Step) :
    history (steps ++ [x]) = history steps ++ [(steps, x)] := by
  simpa [history] using historyFrom_concat [] steps x

/-- The step is an installation, whatever comes of it. -/
def Step.installs : Step → Bool
  | .install _ => true
  | _ => false

/-- The threshold that a step sets: any that it asks for, but for an installation only if it is
the first. -/
def Step.setting? (before : List Step) : Step → Option Threshold
  | .setThreshold t => some t
  | .install t => if before.any Step.installs then none else some t
  | _ => none

/-- The threshold that was set last, or off if none was. -/
def lastThreshold (steps : List Step) : Threshold :=
  ((history steps).filterMap fun h => h.2.setting? h.1).getLastD .off

theorem lastThreshold_concat (steps : List Step) (x : Step) :
    lastThreshold (steps ++ [x]) = (x.setting? steps).getD (lastThreshold steps) := by
  rw [lastThreshold, history_concat, List.filterMap_append]
  cases h : x.setting? steps with
  | none => simp [h, lastThreshold]
  | some t => simp [h]

/-! ### What a step does, by its history -/

/-- What a step answers behind others. -/
def Step.answerAfter (before : List Step) : Step → Answer
  | .install t =>
      if before.any Step.installs then .alreadyInstalled (lastThreshold before) else .threshold t
  | .setThreshold t => .threshold t
  | .getThreshold => .threshold (lastThreshold before)
  | .enabled level => .enabled ((lastThreshold before).allows level)
  | .log _ | .flush => .done
  | .parse text => .parsed (Signature.parse text)
  | .parseArguments text => .parsedArguments (Signature.parseArguments text)

/-- What a step writes behind others. A record that is handed to the logger needs no
installation; what the reading of a text says needs one, and each of its two records needs the
threshold for itself. -/
def Step.recordsAfter (before : List Step) : Step → List Record
  | .log r => if (lastThreshold before).allows r.level then [r] else []
  | .parse text =>
      if before.any Step.installs then
        (if lastThreshold before = .upTo .trace then
            [⟨.trace, "method_sig::parser::signature".toList,
              "parsing method signature ".toList ++ Text.quoted text⟩]
          else [])
          ++ match Signature.parse text with
            | .ok s =>
                if (lastThreshold before).allows .debug then
                  [⟨.debug, "method_sig::parser::signature".toList,
                    "parsed ".toList ++ Text.quoted text ++ " into ".toList ++ s.outline.compact⟩]
                else []
            | .error _ => []
      else []
  | _ => []

theorem passed_records (t : Threshold) (text : Text) :
    passed t (records text) =
      (if t = .upTo .trace then [startRecord text] else [])
        ++ match Signature.parse text with
          | .ok s => if t.allows .debug then [successRecord text s] else []
          | .error _ => [] := by
  have hstart : t.allows (startRecord text).level = true ↔ t = .upTo .trace :=
    Threshold.allows_trace_iff
  simp only [records, passed_cons, hstart]
  cases Signature.parse text with
  | ok s => exact congrArg _ (passed_singleton t (successRecord text s))
  | error e => rfl

namespace Session

/-! ### One step -/

/-- The session stands where the steps lead from a fresh one. -/
structure IsAfter (steps : List Step) (s : Session) : Prop where
  installed : s.installed = steps.any Step.installs
  threshold : s.threshold = lastThreshold steps

theorem isAfter_fresh : IsAfter [] fresh :=
  ⟨rfl, rfl⟩

variable {before : List Step} {s : Session}

/-- A step leads on. -/
theorem IsAfter.step (h : IsAfter before s) (x : Step) :
    IsAfter (before ++ [x]) (s.step x).1 := by
  -- Apart from installations and from steps that set a threshold, a step leaves the session alone.
  have hkept : x.installs = false → x.setting? before = none → IsAfter (before ++ [x]) s := by
    intro hx hset
    refine ⟨?_, ?_⟩
    · rw [h.installed, List.any_append, List.any_cons, hx, List.any_nil, Bool.or_false,
        Bool.or_false]
    · rw [h.threshold, lastThreshold_concat, hset, Option.getD_none]
  cases x with
  | install t =>
      by_cases hi : s.installed = true
      · have hany : before.any Step.installs = true := h.installed ▸ hi
        refine ⟨?_, ?_⟩
        · simp [Session.step, hi, Step.installs]
        · simp [Session.step, hi, lastThreshold_concat, Step.setting?, hany, h.threshold]
      · have hany : before.any Step.installs = false := by
          rw [← h.installed]
          exact Bool.not_eq_true _ ▸ hi
        refine ⟨?_, ?_⟩
        · simp [Session.step, hi, Step.installs]
        · simp [Session.step, hi, lastThreshold_concat, Step.setting?, hany]
  | setThreshold t =>
      refine ⟨?_, ?_⟩
      · simp [Session.step, h.installed, Step.installs]
      · simp [Session.step, lastThreshold_concat, Step.setting?]
  | getThreshold => exact hkept rfl rfl
  | enabled level => exact hkept rfl rfl
  | log r => exact hkept rfl rfl
  | flush => exact hkept rfl rfl
  | parse text => exact hkept rfl rfl
  | parseArguments text => exact hkept rfl rfl

theorem IsAfter.answer (h : IsAfter before s) (x : Step) :
    (s.step x).2.1 = x.answerAfter before := by
  cases x with
  | install t =>
      rw [Session.step, Step.answerAfter, ← h.installed, ← h.threshold]
      cases s.installed with
      | false => rfl
      | true => rfl
  | getThreshold => rw [Session.step, Step.answerAfter, h.threshold]
  | enabled level => rw [Session.step, Step.answerAfter, h.threshold]
  | _ => rfl

/-- An installation writes nothing, whether or not it is refused. -/
theorem records_install (s : Session) (t : Threshold) : (s.step (.install t)).2.2 = [] := by
  rw [Session.step]
  cases s.installed with
  | false => rfl
  | true => rfl

theorem IsAfter.records (h : IsAfter before s) (x : Step) :
    (s.step x).2.2 = x.recordsAfter before := by
  cases x with
  | install t => exact records_install s t
  | log r => rw [Session.step, Step.recordsAfter, h.threshold, passed_singleton]
  | parse text =>
      rw [Session.step, Step.recordsAfter, heard, h.installed, h.threshold, passed_records]
      rfl
  | _ => rfl

/-! ### Runs -/

theorem run_cons (s : Session) (x : Step) (xs : List Step) :
    s.run (x :: xs) = (((s.step x).1.run xs).1, (s.step x).2.1 :: ((s.step x).1.run xs).2.1,
      (s.step x).2.2 ++ ((s.step x).1.run xs).2.2) :=
  rfl

/-- The steps of a run lead on one by one. -/
theorem IsAfter.run (h : IsAfter before s) (steps : List Step) :
    IsAfter (before ++ steps) (s.run steps).1 ∧
      (s.run steps).2.1 = (historyFrom before steps).map (fun h => h.2.answerAfter h.1) ∧
      (s.run steps).2.2 = (historyFrom before steps).flatMap fun h => h.2.recordsAfter h.1 := by
  induction steps generalizing before s with
  | nil =>
      rw [List.append_nil]
      exact ⟨h, rfl, rfl⟩
  | cons x xs ih =>
      obtain ⟨hafter, hanswers, hrecords⟩ := ih (h.step x)
      rw [List.append_assoc, List.singleton_append] at hafter
      rw [run_cons, historyFrom, List.map_cons, List.flatMap_cons]
      exact ⟨hafter, by rw [h.answer x, hanswers], by rw [h.records x, hrecords]⟩

theorem eq_of_isAfter {steps : List Step} {s s' : Session} (h : IsAfter steps s)
    (h' : IsAfter steps s') : s = s' := by
  cases s
  cases s'
  cases h.installed.trans h'.installed.symm
  cases h.threshold.trans h'.threshold.symm
  rfl

/-- **A run from the start of a process.** Each step answers by its history: the first installation
with its threshold, and a later one that it is refused. An installation behind other steps changes
nothing unless it is the first. The threshold is the last that was set by a step that sets any time
or by the first installation, and off without such a step. The records are, in the order of the
steps, those that each step writes by its history; and what is written is one line for each of
them, with its target and its level in brackets before its message. -/
theorem run_fresh (steps : List Step) :
    (fresh.run steps).2.1 = (history steps).map (fun h => h.2.answerAfter h.1) ∧
      (∀ t, (fresh.run (steps ++ [.install t])).1 =
        if steps.any Step.installs then (fresh.run steps).1 else ⟨true, t⟩) ∧
      (fresh.run steps).1.threshold = lastThreshold steps ∧
      (fresh.run steps).2.2 = ((history steps).flatMap fun h => h.2.recordsAfter h.1) ∧
      written (fresh.run steps).2.2 =
        (history steps).flatMap fun h => (h.2.recordsAfter h.1).flatMap fun r =>
          "[".toList ++ r.target ++ "] [".toList ++ r.level.name ++ "] ".toList ++ r.message
            ++ "\n".toList := by
  obtain ⟨hafter, hanswers, hrecords⟩ := isAfter_fresh.run steps
  rw [List.nil_append] at hafter
  refine ⟨hanswers, fun t => ?_, hafter.threshold, hrecords, ?_⟩
  · have hinstall := (isAfter_fresh.run (steps ++ [.install t])).1
    rw [List.nil_append] at hinstall
    rw [eq_of_isAfter hinstall (hafter.step (.install t)), Session.step, ← hafter.installed]
    cases (fresh.run steps).1.installed with
    | false => rfl
    | true => rfl
  · have hline : Record.line = fun r => "[".toList ++ r.target ++ "] [".toList ++ r.level.name
        ++ "] ".toList ++ r.message ++ "\n".toList := rfl
    rw [hrecords, written, List.flatMap_assoc, hline]
    rfl

/-- The logger writes what it is handed before it is installed; what the reading of a text says is
written behind the installation. -/
example : written (fresh.run [.parse "x".toList, .setThreshold (.upTo .error),
    .log ⟨.error, "a".toList, "b".toList⟩, .log ⟨.warn, "a".toList, "b".toList⟩,
    .install (.upTo .trace), .log ⟨.info, "c".toList, [']']⟩, .parse "x".toList]).2.2 =
    "[a] [ERROR] b\n[c] [INFO] ]\n".toList
      ++ "[method_sig::parser::signature] [TRACE] parsing method signature \"x\"\n".toList := by
  decide +kernel

end Session

end Declarator.Log
