import Declarator.Proofs.Json.Persistence
import Declarator.Proofs.Json.Skipping

/-!
# The first problem of a text

What a text is refused for, if it is well-formed up to there, does not depend on what is appended to
it, even if that is no JSON. Each kind of value is read by the first character that is not blank, and
then by readers of the same kind.

* `persists_skipValue`: values that nobody asked for.
* `problemPersists_unexpected`: values of the wrong kind.
* `persists_readList`, `persists_readMembers`, `persists_readRecord`: lists and records.
* `Persists.decode_append`: **whole texts.**
-/

namespace Declarator.Json

variable {α σ : Type} {t : Text}

/-! ### Values that nobody asked for -/

theorem persists_of_skipScalar? (ht : EndsNumber t) {c : Char} {r : Reader Unit}
    (h : skipScalar? c = some r) : Persists r t := by
  have hnumeral (negative : Bool) : Persists (readNumeral .malformed negative) t :=
    persists_readNumeral (by simp) ht negative
  unfold skipScalar? at h
  split at h
  · cases h
    exact persists_literal _
  split at h
  · cases h
    exact persists_literal _
  split at h
  · cases h
    exact persists_literal _
  split at h
  · cases h
    exact (hnumeral true).map fun _ => ()
  split at h
  · cases h
    exact ((hnumeral false).map fun _ => ()).cons c
  split at h
  · cases h
    exact (persists_stringBody false).map fun _ => ()
  · cases h

theorem persists_skipLabel (b : Bracket) : Persists (skipLabel b) t := by
  cases b with
  | square => exact persists_pure ()
  | curly =>
      exact (persists_mark _).bind fun _ => (persists_stringBody false).bind fun _ =>
        persists_mark _

theorem persists_skipOpened (b : Bracket) (around : List Bracket) :
    Persists (skipOpened b around) t := by
  refine persists_front fun c => persists_ite (fun _ => persists_pure _) fun _ => ?_
  exact ((persists_skipLabel b).cons c).map fun _ => some (Spot.due (b :: around))

theorem persists_skipStep (ht : EndsNumber t) (spot : Spot) : Persists (skipStep spot) t := by
  cases spot with
  | due around =>
      refine persists_front fun c => ?_
      cases hopened : opened? c with
      | some b => exact persists_skipOpened b around
      | none =>
          cases hscalar : skipScalar? c with
          | none => exact persists_error _
          | some r => exact (persists_of_skipScalar? ht hscalar).map fun _ => behind around
  | inside b around =>
      refine persists_front fun c => ?_
      refine persists_ite (fun _ => persists_pure _) fun _ => ?_
      refine persists_ite (fun _ => ?_) fun _ => persists_error _
      exact (persists_skipLabel b).map fun _ => some (Spot.due (b :: around))

theorem persists_skipFrom (ht : EndsNumber t) (spot : Spot) :
    Persists (fun s => skipFrom spot s) t := by
  intro s
  show Settled (skipFrom spot s) → skipFrom spot (s ++ t) = (skipFrom spot s).map _
  fun_induction skipFrom spot s with
  | case1 spot s p hstep =>
      intro hs
      rw [skipFrom_eq,
        (persists_skipStep ht spot).append_of_error hstep (settled_error_iff.1 hs)]
      rfl
  | case2 spot s rest hstep =>
      intro _
      exact skipFrom_of_ok ((persists_skipStep ht spot).append_of_ok hstep)
  | case3 spot s next rest hstep ih =>
      intro hs
      rw [skipFrom_of_ok ((persists_skipStep ht spot).append_of_ok hstep)]
      exact ih hs

theorem persists_skipValue (ht : EndsNumber t) : Persists skipValue t :=
  persists_skipFrom ht (.due [])

/-! ### Values of the wrong kind -/

theorem namedIn_map {x : Except Problem (α × Text)} (expected : Text) (found : α → Option Found) :
    namedIn expected found (x.map fun p => (p.1, p.2 ++ t)) = namedIn expected found x := by
  cases x with
  | error p => rfl
  | ok p => rfl

/-- A value that is named has been read. -/
theorem settled_of_namedIn {x : Except Problem (α × Text)} {expected : Text}
    {found : α → Option Found} {cause : Cause} (h : namedIn expected found x = .data cause) :
    Settled x := by
  cases x with
  | error p => exact settled_error_iff.2 ⟨cause, h⟩
  | ok p => exact settled_ok p

/-- A problem with a value that has been found stays the same when `t` is appended. -/
def ProblemPersists (problem : Text → Problem) (t : Text) : Prop :=
  ∀ s cause, problem s = .data cause → problem (s ++ t) = .data cause

theorem problemPersists_namedIn {r : Reader α} (hr : Persists r t) (expected : Text)
    (found : α → Option Found) : ProblemPersists (fun s => namedIn expected found (r s)) t := by
  intro s cause h
  show namedIn expected found (r (s ++ t)) = _
  rw [hr s (settled_of_namedIn h), namedIn_map]
  exact h

theorem problemPersists_const (p : Problem) : ProblemPersists (fun _ => p) t :=
  fun _ _ h => h

theorem problemPersists_ite {p : Prop} [Decidable p] {f g : Text → Problem}
    (hf : p → ProblemPersists f t) (hg : ¬ p → ProblemPersists g t) :
    ProblemPersists (fun s => if p then f s else g s) t := by
  by_cases hp : p
  · simpa only [if_pos hp] using hf hp
  · simpa only [if_neg hp] using hg hp

theorem problemPersists_unexpected (ht : EndsNumber t) (expected : Text) :
    ProblemPersists (unexpected expected) t := by
  have hnumeral (negative : Bool) : Persists (readNumeral .truncated negative) t :=
    persists_readNumeral (by simp) ht negative
  have hliteral (word : Text) (found : Found) :
      ProblemPersists (fun s => namedIn expected (fun _ => some found) (literal word s)) t :=
    problemPersists_namedIn (persists_literal word) expected _
  have hcons (c : Char) : ProblemPersists (fun s => unexpected expected (c :: s)) t := by
    refine problemPersists_ite (fun _ => hliteral _ _) fun _ => ?_
    refine problemPersists_ite (fun _ => hliteral _ _) fun _ => ?_
    refine problemPersists_ite (fun _ => hliteral _ _) fun _ => ?_
    refine problemPersists_ite (fun _ => problemPersists_namedIn (hnumeral true) _ _) fun _ => ?_
    refine problemPersists_ite (fun _ => problemPersists_namedIn ((hnumeral false).cons c) _ _)
      fun _ => ?_
    refine problemPersists_ite
      (fun _ => problemPersists_namedIn (persists_stringBody true) _ _) fun _ => ?_
    refine problemPersists_ite (fun _ => problemPersists_const _) fun _ => ?_
    exact problemPersists_ite (fun _ => problemPersists_const _) fun _ => problemPersists_const _
  intro s cause h
  cases s with
  | nil => cases h
  | cons c s => exact hcons c s cause h

/-- A value that is refused with a problem that persists. -/
theorem ProblemPersists.persists_error {problem : Text → Problem} (hp : ProblemPersists problem t)
    (c : Char) : Persists (fun s => .error (problem (c :: s)) : Reader α) t := by
  intro s hs
  obtain ⟨cause, hcause⟩ := settled_error_iff.1 hs
  have happend := hp (c :: s) cause hcause
  show Except.error (problem (c :: s ++ t)) = .error (problem (c :: s))
  rw [happend, hcause]

/-- A value of the wrong kind is refused. -/
theorem persists_unexpected (ht : EndsNumber t) (expected : Text) (c : Char) :
    Persists (fun s => .error (unexpected expected (c :: s)) : Reader α) t :=
  (problemPersists_unexpected ht expected).persists_error c

/-! ### Values of a known kind -/

theorem persists_readStringOr {problem : Text → Problem} (hp : ProblemPersists problem t) :
    Persists (readStringOr problem) t :=
  persists_front fun c =>
    persists_ite (fun _ => persists_stringBody true) fun _ => hp.persists_error c

theorem persists_readKey : Persists readKey t :=
  persists_readStringOr (problemPersists_const _)

theorem persists_readString (ht : EndsNumber t) : Persists readString t :=
  persists_readStringOr (problemPersists_unexpected ht _)

theorem persists_readNull (ht : EndsNumber t) : Persists readNull t :=
  persists_front fun c =>
    persists_ite (fun _ => persists_literal _) fun _ => persists_unexpected ht _ c

theorem persists_readOptional {item : Reader α} (hitem : Persists item t) :
    Persists (readOptional item) t :=
  persists_front fun c =>
    persists_ite (fun _ => (persists_literal _).map fun _ => none) fun _ => (hitem.cons c).map some

/-! ### Arrays -/

theorem persists_element {item : Reader α} (hitem : Persists item t) (first : Bool) :
    Persists (element item first) t := by
  have hleft (c : Char) : Persists (fun rest => .ok (none, c :: rest) : Reader (Option α)) t := by
    intro s _
    rfl
  refine persists_front fun c => persists_ite (fun _ => hleft c) fun _ => ?_
  refine persists_ite (fun _ => (hitem.cons c).map some) fun _ => ?_
  refine persists_ite (fun _ => ?_) fun _ => persists_error _
  exact persists_front fun d =>
    persists_ite (fun _ => persists_error _) fun _ => (hitem.cons d).map some

theorem persists_elements {item : Reader α} {hi : Shrinks item} (hitem : Persists item t)
    (first : Bool) : Persists (fun s => elements item hi first s) t := by
  intro s
  show Settled (elements item hi first s) →
    elements item hi first (s ++ t) = (elements item hi first s).map _
  fun_induction elements item hi first s with
  | case1 first s p helement =>
      intro hs
      have happend := (persists_element hitem first).append_of_error helement
        (settled_error_iff.1 hs)
      rw [elements_eq, happend]
      rfl
  | case2 first s rest helement =>
      intro _
      exact elements_of_none ((persists_element hitem first).append_of_ok helement)
  | case3 first s v rest helement ih =>
      intro hs
      rw [elements_eq, (persists_element hitem first).append_of_ok helement]
      show (elements item hi false (rest ++ t)).map _ = _
      rw [ih (settled_map_iff.1 hs)]
      cases elements item hi false rest <;> rfl

theorem persists_readList (ht : EndsNumber t) {item : Reader α} {hi : Shrinks item}
    (hitem : Persists item t) : Persists (readList item hi) t := by
  refine persists_front fun c => persists_ite (fun _ => ?_) fun _ => persists_unexpected ht _ c
  exact (persists_elements hitem true).bind fun vs => (persists_mark ']').bind fun _ =>
    persists_pure vs

/-! ### Records -/

theorem persists_placed {item : Reader α} (hitem : Persists item t) (index : Nat) (expected : Text)
    (fields : Nat) : Persists (placed item index expected fields) t := by
  refine (persists_element hitem _).bind fun found => ?_
  cases found with
  | none => exact persists_error _
  | some v => exact persists_pure v

theorem persists_nextKey (first : Bool) : Persists (nextKey first) t := by
  refine persists_front fun c => persists_ite (fun _ => persists_pure none) fun _ => ?_
  refine persists_ite (fun _ => (persists_readKey.cons c).map some) fun _ => ?_
  exact persists_ite (fun _ => persists_readKey.map some) fun _ => persists_error _

theorem persists_readMembers {visit : σ → Text → Reader σ}
    {hv : ∀ (soFar : σ) (key : Text), Keeps (visit soFar key)}
    (hvisit : ∀ soFar key, Persists (visit soFar key) t) (first : Bool) (soFar : σ) :
    Persists (fun s => readMembers visit hv first soFar s) t := by
  intro s
  show Settled (readMembers visit hv first soFar s) →
    readMembers visit hv first soFar (s ++ t) = (readMembers visit hv first soFar s).map _
  fun_induction readMembers visit hv first soFar s with
  | case1 first soFar s p hkey =>
      intro hs
      have happend := (persists_nextKey first).append_of_error (t := t) hkey
        (settled_error_iff.1 hs)
      rw [readMembers_eq, happend]
      rfl
  | case2 first soFar s rest hkey =>
      intro _
      rw [readMembers_eq, (persists_nextKey first).append_of_ok hkey]
      rfl
  | case3 first soFar s key rest hkey p hread =>
      intro hs
      have happend := (hvisit soFar key).append_of_error hread (settled_error_iff.1 hs)
      rw [readMembers_eq, (persists_nextKey first).append_of_ok hkey]
      simp only [happend]
      rfl
  | case4 first soFar s key rest hkey more rest' hread ih =>
      intro hs
      have happend := (hvisit soFar key).append_of_ok hread
      rw [readMembers_eq, (persists_nextKey first).append_of_ok hkey]
      simp only [happend]
      exact ih hs

theorem persists_once {item : Reader α} (hitem : Persists item t) (name : Text)
    (earlier : Option α) : Persists (once name earlier item) t := by
  unfold once
  split
  · exact (persists_error _).bind fun _ => (persists_mark ':').bind fun _ => hitem
  · exact (persists_mark ':').bind fun _ => hitem

theorem persists_ignored (ht : EndsNumber t) : Persists ignored t :=
  (persists_mark ':').bind fun _ => persists_skipValue ht

theorem persists_readRecord (ht : EndsNumber t) (expected : Text) {fields members : Reader α}
    (hfields : Persists fields t) (hmembers : Persists members t) :
    Persists (readRecord expected fields members) t := by
  refine persists_front fun c => persists_ite (fun _ => ?_) fun _ => ?_
  · exact hfields.bind fun v => (persists_mark ']').bind fun _ => persists_pure v
  · exact persists_ite (fun _ => hmembers) fun _ => persists_unexpected ht _ c

/-! ### Whole texts -/

/-- **Nothing behind the first problem is looked at**, if the text is well-formed up to there. -/
theorem Persists.decode_append {item : Reader α} (hitem : Persists item t) {s : Text}
    {cause : Cause} (h : decode item s = .error (.data cause)) :
    decode item (s ++ t) = .error (.data cause) := by
  have hread : item s = .error (.data cause) := by
    unfold decode at h
    cases hitem : item s with
    | error p =>
        rw [hitem] at h
        exact congrArg _ (Except.error.inj h)
    | ok p =>
        simp only [hitem] at h
        split at h <;> cases h
  rw [decode, hitem.append_of_error hread ⟨cause, rfl⟩]

end Declarator.Json
