import Declarator.Log.Record

/-!
# Thresholds

A more detailed threshold lets more records pass, in the same order, and more requests for detail
ask for a threshold that is no less detailed. Warnings pass any threshold that can be asked for.

* `thresholdFor_mono`: more requests.
* `passed_passed`, `passed_sublist`: **what passes a threshold and a more detailed one**.
-/

namespace Declarator.Log

/-! ### Levels -/

theorem Threshold.allows_trace_iff {t : Threshold} :
    t.allows .trace = true ↔ t = .upTo .trace := by
  cases t with
  | off => simp
  | upTo level => cases level <;> decide

theorem detail_thresholdFor (n : Nat) : (thresholdFor n).detail = min (n + 2) 5 := by
  match n with
  | 0 => rfl
  | 1 => rfl
  | 2 => rfl
  | n + 3 =>
      have htrace : (thresholdFor (n + 3)).detail = 5 := rfl
      omega

theorem thresholdFor_mono {m n : Nat} (h : m ≤ n) :
    (thresholdFor m).detail ≤ (thresholdFor n).detail := by
  rw [detail_thresholdFor, detail_thresholdFor]
  omega

theorem thresholdFor_of_three_le {n : Nat} (h : 3 ≤ n) : thresholdFor n = .upTo .trace := by
  obtain ⟨k, rfl⟩ := Nat.exists_eq_add_of_le' h
  rfl

/-- More requests than are counted make no difference. -/
theorem thresholdFor_min (n : Nat) : thresholdFor (min n 255) = thresholdFor n := by
  by_cases h : n ≤ 255
  · rw [Nat.min_eq_left h]
  · rw [thresholdFor_of_three_le (by omega), thresholdFor_of_three_le (by omega)]

theorem passed_singleton (t : Threshold) (r : Record) :
    passed t [r] = if t.allows r.level then [r] else [] := by
  rw [passed, List.filter_cons, List.filter_nil]

theorem passed_cons (t : Threshold) (r : Record) (records : List Record) :
    passed t (r :: records) = (if t.allows r.level then [r] else []) ++ passed t records := by
  rw [← passed_singleton, ← passed_append, List.singleton_append]

/-- What passes a threshold is the same among all records and among those that pass a more
detailed threshold. -/
theorem passed_passed {t t' : Threshold} (h : t.detail ≤ t'.detail) (records : List Record) :
    passed t (passed t' records) = passed t records := by
  rw [passed, passed, List.filter_filter]
  refine List.filter_congr fun r _ => ?_
  cases ht : t.allows r.level with
  | false => rfl
  | true => rw [Threshold.allows_mono h ht, Bool.and_self]

/-- What passes a threshold passes a more detailed one, in the same order. -/
theorem passed_sublist {t t' : Threshold} (h : t.detail ≤ t'.detail) (records : List Record) :
    (passed t records).Sublist (passed t' records) := by
  rw [← passed_passed h]
  exact List.filter_sublist

end Declarator.Log
