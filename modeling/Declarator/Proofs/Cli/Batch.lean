import Mathlib.Algebra.Ring.Nat
import Mathlib.Data.List.Induction
import Declarator.Cli.Batch

/-!
# What a batch comes to

A batch keeps a count, what it has printed and what it has logged, and goes on with one text at a
time. Whatever the texts are and however signatures and refused texts are mixed, it has at every
point printed the signatures so far and logged the records so far, and has counted the refusals.
The count has 32 bits, so it is their number only as long as there are fewer than 2³¹ of them.

* `accepted`, `refused`, `events`: the signatures of a batch, the refusals, and the records.
* `failures`, `failures_pos_iff`: the count of the refusals, and when it is above zero;
  `ite_failures_pos_of_lt`: what that decides as long as there are few.
* `Progress.IsAfter`: how far a batch has come after some texts; one more text keeps that.
* `batch_eq`: **the outcome of a batch**.
-/

namespace Declarator.Cli

open Log Signature

/-! ### The parts of a batch -/

/-- The signatures among texts, in order. -/
def accepted (texts : List Text) : List Signature :=
  texts.filterMap fun text => (parse text).toOption

/-- The refusal of a text, if it is refused. -/
def refusal? (text : Text) : Option (Text × Error) :=
  match parse text with
  | .ok _ => none
  | .error e => some (text, e)

/-- The texts that are refused, in order, each with the reason. -/
def refused (texts : List Text) : List (Text × Error) :=
  texts.filterMap refusal?

/-- The records that a text gives rise to: those of reading it and, if it is refused, one more. -/
def events (text : Text) : List Record :=
  records text ++ (refusal? text).toList.map fun r => refusalRecord r.1 r.2

/-- The count of the refusals, a signed number of 32 bits. -/
def failures (texts : List Text) : Int32 :=
  Int32.ofNat (refused texts).length

/-- What stands behind the log of a batch: nothing, or a line that counts the refusals. -/
def closing (texts : List Text) : Text :=
  if 0 < failures texts then summary (failures texts).toNatClampNeg texts.length else []

variable {text : Text}

theorem accepted_concat_of_ok {s : Signature} (h : parse text = .ok s) (texts : List Text) :
    accepted (texts ++ [text]) = accepted texts ++ [s] := by
  simp [accepted, h, Except.toOption]

theorem accepted_concat_of_error {e : Error} (h : parse text = .error e) (texts : List Text) :
    accepted (texts ++ [text]) = accepted texts := by
  simp [accepted, h, Except.toOption]

theorem refusal?_of_ok {s : Signature} (h : parse text = .ok s) : refusal? text = none := by
  rw [refusal?, h]

theorem refusal?_of_error {e : Error} (h : parse text = .error e) :
    refusal? text = some (text, e) := by
  rw [refusal?, h]

theorem refused_concat (texts : List Text) (text : Text) :
    refused (texts ++ [text]) = refused texts ++ (refusal? text).toList := by
  rw [refused, List.filterMap_append]
  cases h : refusal? text with
  | none => simp [refused, h]
  | some r => simp [refused, h]

/-! ### The count of the refusals -/

theorem failures_concat_of_ok {s : Signature} (h : parse text = .ok s) (texts : List Text) :
    failures (texts ++ [text]) = failures texts := by
  rw [failures, refused_concat, refusal?_of_ok h, Option.toList_none, List.append_nil, failures]

theorem failures_concat_of_error {e : Error} (h : parse text = .error e) (texts : List Text) :
    failures (texts ++ [text]) = failures texts + 1 := by
  rw [failures, refused_concat, refusal?_of_error h, Option.toList_some, List.length_append,
    Int32.ofNat_add]
  rfl

/-- The count is above zero as long as the number of refusals, less any multiple of 2³², is below
2³¹ and not zero. -/
theorem failures_pos_iff (texts : List Text) :
    0 < failures texts ↔
      0 < (refused texts).length % 2 ^ 32 ∧ (refused texts).length % 2 ^ 32 < 2 ^ 31 := by
  have hzero : Int32.toInt 0 = 0 := rfl
  rw [Int32.lt_iff_toInt_lt, hzero, failures, Int32.toInt_ofNat', Int.bmod_def, Int32.size]
  split <;> omega

theorem length_refused_le (texts : List Text) : (refused texts).length ≤ texts.length :=
  List.length_filterMap_le refusal? texts

/-- Below 2³¹ refusals, the count is above zero exactly if there are any. -/
theorem failures_pos_iff_of_lt {texts : List Text} (h : (refused texts).length < 2 ^ 31) :
    0 < failures texts ↔ (refused texts).isEmpty = false := by
  rw [failures_pos_iff, List.isEmpty_eq_false_iff, ← List.length_pos_iff]
  omega

/-- What depends on the count being above zero depends on whether anything is refused. -/
theorem ite_failures_pos_of_lt {α : Type} {texts : List Text}
    (h : (refused texts).length < 2 ^ 31) (v w : α) :
    (if 0 < failures texts then v else w) = if (refused texts).isEmpty then w else v := by
  simp only [failures_pos_iff_of_lt h]
  cases (refused texts).isEmpty with
  | false => rfl
  | true => rfl

theorem closing_of_lt {texts : List Text} (h : (refused texts).length < 2 ^ 31) :
    closing texts = if (refused texts).isEmpty then []
      else summary (refused texts).length texts.length := by
  have hcount : (failures texts).toNatClampNeg = (refused texts).length :=
    Int32.toNatClampNeg_ofNat_of_lt h
  rw [closing, ite_failures_pos_of_lt h, hcount]

/-! ### One text after another -/

namespace Progress

/-- How far a batch has come after some texts. -/
structure IsAfter (form : Form) (session : Session) (texts : List Text) (p : Progress) : Prop where
  refused : p.refused = failures texts
  printed : p.printed.reverse = (accepted texts).map form.render
  logged : p.logged.reverse = session.heard (texts.flatMap events)

variable {form : Form} {session : Session} {texts : List Text} {p : Progress}

theorem isAfter_start (form : Form) (session : Session) : IsAfter form session [] start :=
  ⟨rfl, rfl, session.heard_nil.symm⟩

theorem next_of_ok {s : Signature} (h : parse text = .ok s) :
    p.next form session text =
      ⟨p.refused, form.render s :: p.printed,
        (session.heard (records text)).reverse ++ p.logged⟩ := by
  rw [next, h]
  rfl

theorem next_of_error {e : Error} (h : parse text = .error e) :
    p.next form session text =
      ⟨p.refused + 1, p.printed,
        (session.heard [refusalRecord text e]).reverse
          ++ ((session.heard (records text)).reverse ++ p.logged)⟩ := by
  rw [next, h]
  rfl

/-- One more text, whether it is a signature or refused, is accounted for. -/
theorem IsAfter.next (h : IsAfter form session texts p) (text : Text) :
    IsAfter form session (texts ++ [text]) (p.next form session text) := by
  have hevents : (texts ++ [text]).flatMap events = texts.flatMap events ++ events text := by
    simp
  cases hparse : parse text with
  | ok s =>
      rw [next_of_ok hparse]
      refine ⟨?_, ?_, ?_⟩
      · rw [failures_concat_of_ok hparse, h.refused]
      · rw [accepted_concat_of_ok hparse, List.reverse_cons, h.printed, List.map_append]
        rfl
      · rw [hevents, Session.heard_append, events, refusal?_of_ok hparse, List.reverse_append,
          List.reverse_reverse, h.logged]
        simp
  | error e =>
      rw [next_of_error hparse]
      refine ⟨?_, ?_, ?_⟩
      · rw [failures_concat_of_error hparse, h.refused]
      · rw [accepted_concat_of_error hparse, h.printed]
      · rw [hevents, Session.heard_append, events, refusal?_of_error hparse, Session.heard_append,
          List.reverse_append, List.reverse_append, List.reverse_reverse, List.reverse_reverse,
          h.logged, List.append_assoc]
        rfl

/-- So a batch comes as far as its texts, one after another. -/
theorem isAfter_foldl (form : Form) (session : Session) (texts : List Text) :
    IsAfter form session texts (texts.foldl (Progress.next form session) start) := by
  -- `IsAfter` speaks of the texts so far, so the last text is the one to take off.
  induction texts using List.reverseRecOn with
  | nil => exact isAfter_start form session
  | append_singleton texts text ih =>
      rw [List.foldl_append]
      exact ih.next text

end Progress

/-! ### The outcome -/

/-- **The outcome of a batch.** The signatures are printed in order, and nothing else is; the
records that pass the threshold are written in order; and the count of the refusals decides on the
last line and the code. -/
theorem batch_eq (form : Form) (threshold : Threshold) (texts : List Text) :
    batch form threshold texts =
      { code := if 0 < failures texts then 1 else 0
        stdout := (accepted texts).flatMap form.render
        stderr := written (passed threshold (texts.flatMap events)) ++ closing texts } := by
  have h := Progress.isAfter_foldl form ⟨true, threshold⟩ texts
  have hbatch : batch form threshold texts =
      (texts.foldl (Progress.next form ⟨true, threshold⟩) .start).outcome texts.length := rfl
  rw [hbatch, Progress.outcome, h.refused, h.printed, h.logged, closing, List.flatMap_def]
  rfl

/-! ### The records of a batch -/

theorem passed_warn_records (text : Text) : passed (.upTo .warn) (records text) = [] := by
  rw [passed, List.filter_eq_nil_iff]
  intro r hr
  rw [records, List.mem_cons] at hr
  rcases hr with rfl | hr
  · exact Bool.false_ne_true
  · cases hparse : parse text with
    | ok s =>
        rw [hparse, List.mem_singleton] at hr
        rw [hr]
        exact Bool.false_ne_true
    | error e =>
        rw [hparse] at hr
        cases hr

/-- Up to warnings, only the refusals are reported. -/
theorem passed_warn_events (texts : List Text) :
    passed (.upTo .warn) (texts.flatMap events) =
      (refused texts).map fun r => refusalRecord r.1 r.2 := by
  induction texts with
  | nil => rfl
  | cons text texts ih =>
      rw [List.flatMap_cons, passed_append, ih, events, passed_append, passed_warn_records,
        List.nil_append, refused, refused, List.filterMap_cons]
      cases refusal? text with
      | none => rfl
      | some r => rfl

end Declarator.Cli
