import Mathlib.Data.List.Forall2
import Declarator.Proofs.Log.Session

/-!
# Sessions at lower and higher thresholds

Two sessions take the same steps, but what the first sets its threshold to is never more detailed
than what the second sets it to. A logger is installed in both at the same step, as an installation
is refused whatever threshold it comes with, so at every step the first session stands below the
second.

* `Step.IsLowered`, `Answer.IsLowered`: a step and an answer at a lower threshold.
* `Session.IsBelow`: a session at a lower threshold; a step keeps that.
* `Session.run_lowered`: **two whole runs**, their thresholds, their answers and their records.
-/

namespace Declarator.Log

/-- The same step, or one that sets a threshold which is no more detailed. -/
inductive Step.IsLowered : Step → Step → Prop where
  | install {t t' : Threshold} (h : t.detail ≤ t'.detail) : IsLowered (.install t) (.install t')
  | setThreshold {t t' : Threshold} (h : t.detail ≤ t'.detail) :
      IsLowered (.setThreshold t) (.setThreshold t')
  | same (x : Step) : IsLowered x x

/-- The same answer, but for thresholds that are no more detailed and levels that need not be
enabled. -/
inductive Answer.IsLowered : Answer → Answer → Prop where
  | threshold {t t' : Threshold} (h : t.detail ≤ t'.detail) :
      IsLowered (.threshold t) (.threshold t')
  | alreadyInstalled {t t' : Threshold} (h : t.detail ≤ t'.detail) :
      IsLowered (.alreadyInstalled t) (.alreadyInstalled t')
  | enabled {b b' : Bool} (h : b = true → b' = true) : IsLowered (.enabled b) (.enabled b')
  | done : IsLowered .done .done
  | parsed (result : Except Signature.Error Signature) :
      IsLowered (.parsed result) (.parsed result)
  | parsedArguments (result : Except Signature.Error (List Argument)) :
      IsLowered (.parsedArguments result) (.parsedArguments result)

namespace Session

/-- The same session at a threshold that is no more detailed. -/
structure IsBelow (s s' : Session) : Prop where
  installed : s.installed = s'.installed
  threshold : s.threshold.detail ≤ s'.threshold.detail

variable {s s' : Session} {x x' : Step}

theorem IsBelow.refl (s : Session) : IsBelow s s :=
  ⟨rfl, Nat.le_refl _⟩

/-- What a session below another hears, the other hears as well. -/
theorem IsBelow.heard_sublist (h : IsBelow s s') (records : List Record) :
    (s.heard records).Sublist (s'.heard records) := by
  rw [heard, heard, h.installed]
  cases s'.installed with
  | false => exact List.nil_sublist []
  | true => exact passed_sublist h.threshold records

/-! ### One step -/

/-- Whether an installation is refused does not depend on its threshold, so a session stays below
another. -/
theorem IsBelow.step (h : IsBelow s s') (hx : x.IsLowered x') :
    IsBelow (s.step x).1 (s'.step x').1 := by
  have hinstall {t t' : Threshold} (ht : t.detail ≤ t'.detail) :
      IsBelow (s.step (.install t)).1 (s'.step (.install t')).1 := by
    rw [Session.step, Session.step, h.installed]
    cases s'.installed with
    | false => exact ⟨rfl, ht⟩
    | true => exact h
  cases hx with
  | install ht => exact hinstall ht
  | setThreshold ht => exact ⟨h.installed, ht⟩
  | same x =>
      cases x with
      | install t => exact hinstall (Nat.le_refl _)
      | setThreshold t => exact ⟨h.installed, Nat.le_refl _⟩
      | _ => exact h

theorem IsBelow.answer (h : IsBelow s s') (hx : x.IsLowered x') :
    ((s.step x).2.1).IsLowered (s'.step x').2.1 := by
  have hinstall {t t' : Threshold} (ht : t.detail ≤ t'.detail) :
      ((s.step (.install t)).2.1).IsLowered (s'.step (.install t')).2.1 := by
    rw [Session.step, Session.step, h.installed]
    cases s'.installed with
    | false => exact .threshold ht
    | true => exact .alreadyInstalled h.threshold
  cases hx with
  | install ht => exact hinstall ht
  | setThreshold ht => exact .threshold ht
  | same x =>
      cases x with
      | install t => exact hinstall (Nat.le_refl _)
      | setThreshold t => exact .threshold (Nat.le_refl _)
      | getThreshold => exact .threshold h.threshold
      | enabled level => exact .enabled (Threshold.allows_mono h.threshold)
      | log r => exact .done
      | flush => exact .done
      | parse text => exact .parsed _
      | parseArguments text => exact .parsedArguments _

theorem IsBelow.records (h : IsBelow s s') (hx : x.IsLowered x') :
    (s.step x).2.2.Sublist (s'.step x').2.2 := by
  cases hx with
  | install _ => rw [records_install, records_install]
  | setThreshold _ => exact List.nil_sublist []
  | same x =>
      cases x with
      | install t => rw [records_install, records_install]
      | log r => exact passed_sublist h.threshold [r]
      | parse text => exact h.heard_sublist (Signature.records text)
      | _ => exact List.nil_sublist []

/-! ### Runs -/

/-- A session below another stays below it, and answers and writes less at every step. -/
theorem IsBelow.run (h : IsBelow s s') {steps steps' : List Step}
    (hsteps : List.Forall₂ Step.IsLowered steps steps') :
    IsBelow (s.run steps).1 (s'.run steps').1 ∧
      List.Forall₂ Answer.IsLowered (s.run steps).2.1 (s'.run steps').2.1 ∧
      (s.run steps).2.2.Sublist (s'.run steps').2.2 := by
  induction hsteps generalizing s s' with
  | nil => exact ⟨h, .nil, List.nil_sublist []⟩
  | cons hx _ ih =>
      obtain ⟨hbelow, hanswers, hrecords⟩ := ih (h.step hx)
      rw [run_cons, run_cons]
      exact ⟨hbelow, .cons (h.answer hx) hanswers, (h.records hx).append hrecords⟩

/-- **Raising thresholds only adds records.** Two processes take the same steps, but for thresholds
that are at no step more detailed in the first. Then the threshold of the first is at no point more
detailed; each of its answers is that of the second, but that a threshold may be less detailed and a
level may be enabled in the second only; and the records that it writes are some of those that the
second writes, in the same order. -/
theorem run_lowered {steps steps' : List Step}
    (h : List.Forall₂ Step.IsLowered steps steps') :
    (∀ n, (fresh.run (steps.take n)).1.threshold.detail ≤
        (fresh.run (steps'.take n)).1.threshold.detail) ∧
      List.Forall₂ Answer.IsLowered (fresh.run steps).2.1 (fresh.run steps').2.1 ∧
      (fresh.run steps).2.2.Sublist (fresh.run steps').2.2 := by
  have hfresh := IsBelow.refl fresh
  exact ⟨fun n => (hfresh.run (List.forall₂_take n h)).1.threshold, (hfresh.run h).2⟩

theorem run_lowered_of_refused_installation :
    let steps (first refused last : Threshold) : List Step :=
      [.parse "a b()".toList, .install first, .install refused, .enabled .debug,
        .parse "a b()".toList, .parse "a b".toList, .setThreshold last,
        .log ⟨.error, "x".toList, "y".toList⟩, .parseArguments "int a".toList]
    let low := steps .off (.upTo .trace) (.upTo .error)
    let high := steps (.upTo .debug) (.upTo .trace) (.upTo .warn)
    List.Forall₂ Step.IsLowered low high ∧
      ((∀ n, (fresh.run (low.take n)).1.threshold.detail ≤
          (fresh.run (high.take n)).1.threshold.detail) ∧
        List.Forall₂ Answer.IsLowered (fresh.run low).2.1 (fresh.run high).2.1 ∧
        (fresh.run low).2.2.Sublist (fresh.run high).2.2) ∧
      (fresh.run low).2.2.length = 1 ∧ (fresh.run high).2.2.length = 2 := by
  have hfirst : (Step.install .off).IsLowered (.install (.upTo .debug)) := .install (by decide)
  have hlast : (Step.setThreshold (.upTo .error)).IsLowered (.setThreshold (.upTo .warn)) :=
    .setThreshold (by decide)
  have hsteps := List.Forall₂.cons (.same (.parse "a b()".toList)) (.cons hfirst
    (.cons (.same (.install (.upTo .trace))) (.cons (.same (.enabled .debug))
      (.cons (.same (.parse "a b()".toList)) (.cons (.same (.parse "a b".toList)) (.cons hlast
        (.cons (.same (.log ⟨.error, "x".toList, "y".toList⟩))
          (.cons (.same (.parseArguments "int a".toList)) .nil))))))))
  exact ⟨hsteps, run_lowered hsteps, by decide +kernel, by decide +kernel⟩

end Session

end Declarator.Log
