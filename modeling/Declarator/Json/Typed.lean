import Declarator.Json.Skip
import Declarator.Json.Unexpected

/-!
# Reading values of a known kind

Strings, lists, and records. A record is an object, whose members may come in any order and among
others, or an array of its fields in order.

- `Json.readStringOr` : a string, or a problem with any other value. `Json.readString` and
  `Json.readKey` are cases of it.
- `Json.readNull`, `Json.readOptional`, `Json.readList`.
- `Json.readRecord` : a record in either form; `Json.placed` reads a field of the one form, and
  `Json.readMembers` the members of the other.
- `Json.decode` : the value that a whole text holds.
-/

namespace Declarator.Json

variable {α σ : Type}

/-- A string; any other value in its place is the given problem. -/
def readStringOr (problem : Text → Problem) : Reader Text :=
  fun s =>
    match skipBlanks s with
    | [] => .error .truncated
    | c :: rest => if c = '"' then stringBody true rest else .error (problem (c :: rest))

/-- A string. -/
def readString : Reader Text :=
  readStringOr (unexpected "a string".toList)

/-- A string where any other value would be malformed, as before a colon. -/
def readKey : Reader Text :=
  readStringOr fun _ => .malformed

/-- The null that stands for a value without content. -/
def readNull : Reader Unit :=
  fun s =>
    match skipBlanks s with
    | [] => .error .truncated
    | c :: rest =>
        if c = 'n' then literal ['u', 'l', 'l'] rest
        else .error (unexpected "unit".toList (c :: rest))

/-- Nothing for a null, and otherwise a value. -/
def readOptional (item : Reader α) : Reader (Option α) :=
  fun s =>
    match skipBlanks s with
    | [] => .error .truncated
    | c :: rest =>
        if c = 'n' then (literal ['u', 'l', 'l'] rest).map fun p => (none, p.2)
        else (item (c :: rest)).map fun p => (some p.1, p.2)

theorem shrinks_readStringOr (problem : Text → Problem) : Shrinks (readStringOr problem) := by
  intro s v rest h
  simp only [readStringOr] at h
  split at h
  · cases h
  · next c tail hs =>
      split at h
      · exact Nat.lt_trans (length_stringBody_lt h) (length_lt_of_skipBlanks hs)
      · cases h

theorem shrinks_readString : Shrinks readString :=
  shrinks_readStringOr _

theorem shrinks_readKey : Shrinks readKey :=
  shrinks_readStringOr _

theorem shrinks_readNull : Shrinks readNull := by
  intro s v rest h
  simp only [readNull] at h
  split at h
  · cases h
  · next c tail hs =>
      split at h
      · exact Nat.lt_of_le_of_lt (keeps_literal _ h) (length_lt_of_skipBlanks hs)
      · cases h

theorem shrinks_readOptional {item : Reader α} (hi : Shrinks item) :
    Shrinks (readOptional item) := by
  intro s v rest h
  simp only [readOptional] at h
  split at h
  · cases h
  · next c tail hs =>
      have hlt := length_lt_of_skipBlanks hs
      split at h
      · obtain ⟨w, hw⟩ := exists_of_map_eq_ok (f := fun _ => none) h
        exact Nat.lt_of_le_of_lt (keeps_literal _ hw) hlt
      · obtain ⟨w, hw⟩ := exists_of_map_eq_ok (f := some) h
        exact Nat.lt_of_lt_of_le (hi hw) hlt

/-! ## Arrays -/

/-- The next element of an array, or nothing before its closing bracket, which is left. -/
def element (item : Reader α) (first : Bool) : Reader (Option α) :=
  fun s =>
    match skipBlanks s with
    | [] => .error .truncated
    | c :: rest =>
        if c = ']' then .ok (none, c :: rest)
        else if first then (item (c :: rest)).map fun p => (some p.1, p.2)
        else if c = ',' then
          match skipBlanks rest with
          | [] => .error .truncated
          | d :: rest =>
              if d = ']' then .error .malformed
              else (item (d :: rest)).map fun p => (some p.1, p.2)
        else .error .malformed

theorem length_element_lt {item : Reader α} (hi : Shrinks item) {first : Bool} {s : Text} {v : α}
    {rest : Text} (h : element item first s = .ok (some v, rest)) : rest.length < s.length := by
  simp only [element] at h
  split at h
  · cases h
  · next c tail hs =>
      have hlt := length_lt_of_skipBlanks hs
      split at h
      · cases h
      split at h
      · obtain ⟨w, hw⟩ := exists_of_map_eq_ok (f := some) h
        exact Nat.lt_of_lt_of_le (hi hw) hlt
      split at h
      · split at h
        · cases h
        · next d tail' hs' =>
            have hlt' := length_lt_of_skipBlanks hs'
            split at h
            · cases h
            · obtain ⟨w, hw⟩ := exists_of_map_eq_ok (f := some) h
              have := hi hw
              simp only [List.length_cons] at this
              omega
      · cases h

/-- The elements of an array up to its closing bracket, which is left. -/
def elements (item : Reader α) (hi : Shrinks item) (first : Bool) (s : Text) :
    Except Problem (List α × Text) :=
  match _h : element item first s with
  | .error p => .error p
  | .ok (none, rest) => .ok ([], rest)
  | .ok (some v, rest) => (elements item hi false rest).map fun p => (v :: p.1, p.2)
termination_by s.length
decreasing_by exact length_element_lt hi _h

/-- A list, which is an array of any length. -/
def readList (item : Reader α) (hi : Shrinks item) : Reader (List α) :=
  fun s =>
    match skipBlanks s with
    | [] => .error .truncated
    | c :: rest =>
        if c = '[' then
          (do
            let items ← fun s => elements item hi true s
            mark ']'
            return items : Reader (List α)) rest
        else .error (unexpected "a sequence".toList (c :: rest))

theorem length_elements_le {item : Reader α} {hi : Shrinks item} {first : Bool} {s : Text}
    {vs : List α} {rest : Text} (h : elements item hi first s = .ok (vs, rest)) :
    rest.length ≤ s.length := by
  fun_induction elements item hi first s generalizing vs with
  | case1 => cases h
  | case2 first s tail he =>
      cases h
      simp only [element] at he
      split at he
      · cases he
      · next c tail' hs =>
          split at he
          · cases he
            exact length_lt_of_skipBlanks hs
          split at he
          · cases hw : item (c :: tail') <;> simp [hw, Except.map] at he
          split at he
          · split at he
            · cases he
            · next d tail'' _ =>
                split at he
                · cases he
                · cases hw : item (d :: tail'') <;> simp [hw, Except.map] at he
          · cases he
  | case3 first s v tail he ih =>
      obtain ⟨w, hw⟩ := exists_of_map_eq_ok (f := fun vs => v :: vs) h
      exact Nat.le_trans (ih hw) (Nat.le_of_lt (length_element_lt hi he))

theorem shrinks_readList {item : Reader α} (hi : Shrinks item) : Shrinks (readList item hi) := by
  intro s v rest h
  simp only [readList] at h
  split at h
  · cases h
  · next c tail hs =>
      split at h
      · refine Nat.lt_of_le_of_lt ?_ (length_lt_of_skipBlanks hs)
        exact Keeps.bind (fun _ _ _ h => length_elements_le h)
          (fun _ => (shrinks_mark _).keeps.bind fun _ => keeps_pure _) h
      · cases h

/-! ## Records -/

/-- A field of a record in the form of an array; `expected` names a record of `fields` fields. -/
def placed (item : Reader α) (index : Nat) (expected : Text) (fields : Nat) : Reader α := do
  match ← element item (index == 0) with
  | some v => return v
  | none => throw (.data (.invalidLength index expected fields))

/-- The next key of an object, or nothing after its closing bracket. -/
def nextKey (first : Bool) : Reader (Option Text) :=
  fun s =>
    match skipBlanks s with
    | [] => .error .truncated
    | c :: rest =>
        if c = '\x7d' then .ok (none, rest)
        else if first then (readKey (c :: rest)).map fun p => (some p.1, p.2)
        else if c = ',' then (readKey rest).map fun p => (some p.1, p.2)
        else .error .malformed

theorem shrinks_nextKey (first : Bool) : Shrinks (nextKey first) := by
  intro s v rest h
  simp only [nextKey] at h
  split at h
  · cases h
  · next c tail hs =>
      have hlt := length_lt_of_skipBlanks hs
      split at h
      · cases h
        exact hlt
      split at h
      · obtain ⟨w, hw⟩ := exists_of_map_eq_ok (f := some) h
        exact Nat.lt_of_lt_of_le (shrinks_readKey hw) hlt
      split at h
      · obtain ⟨w, hw⟩ := exists_of_map_eq_ok (f := some) h
        exact Nat.lt_trans (shrinks_readKey hw) hlt
      · cases h

/-- The members of an object up to and with its closing bracket. Each key is handed to `visit`,
which reads what follows it into what has been gathered so far. -/
def readMembers (visit : σ → Text → Reader σ) (hv : ∀ (soFar : σ) (key : Text), Keeps (visit soFar key))
    (first : Bool) (soFar : σ) (s : Text) : Except Problem (σ × Text) :=
  match _hk : nextKey first s with
  | .error p => .error p
  | .ok (none, rest) => .ok (soFar, rest)
  | .ok (some key, rest) =>
      match _hr : visit soFar key rest with
      | .error p => .error p
      | .ok (more, rest') => readMembers visit hv false more rest'
termination_by s.length
decreasing_by exact Nat.lt_of_le_of_lt (hv _ _ _hr) (shrinks_nextKey _ _hk)

theorem length_readMembers_lt {visit : σ → Text → Reader σ}
    {hv : ∀ (soFar : σ) (key : Text), Keeps (visit soFar key)} {first : Bool} {soFar more : σ} {s rest : Text}
    (h : readMembers visit hv first soFar s = .ok (more, rest)) : rest.length < s.length := by
  fun_induction readMembers visit hv first soFar s with
  | case1 => cases h
  | case2 _ _ _ _ hk =>
      cases h
      exact shrinks_nextKey _ hk
  | case3 => cases h
  | case4 _ _ _ _ _ hk _ _ hr ih =>
      exact Nat.lt_trans (Nat.lt_of_lt_of_le (ih h) (hv _ _ hr)) (shrinks_nextKey _ hk)

/-- The value of a field that must not have occurred before. -/
def once (name : Text) (earlier : Option α) (item : Reader α) : Reader α := do
  if earlier.isSome then throw (.data (.duplicateField name))
  colon
  item

/-- The value of a field that nobody asked for. -/
def ignored : Reader Unit := do
  colon
  skipValue

theorem keeps_placed {item : Reader α} (hi : Shrinks item) (index : Nat) (expected : Text)
    (fields : Nat) : Keeps (placed item index expected fields) := by
  intro s v rest h
  obtain ⟨found, mid, hf, h⟩ := bind_eq_ok.1 h
  cases found with
  | none => cases h
  | some w =>
      obtain ⟨-, rfl⟩ := pure_eq_ok.1 h
      exact Nat.le_of_lt (length_element_lt hi hf)

theorem keeps_once {item : Reader α} (hi : Keeps item) (name : Text) (earlier : Option α) :
    Keeps (once name earlier item) := by
  unfold once
  split
  · exact keeps_throw _ |>.bind fun _ => (shrinks_mark _).keeps.bind fun _ => hi
  · exact (shrinks_mark _).keeps.bind fun _ => hi

theorem keeps_ignored : Keeps ignored :=
  (shrinks_mark _).keeps.bind fun _ => shrinks_skipValue.keeps

/-- A record, which `expected` names: an array of its fields, or an object. -/
def readRecord (expected : Text) (fields members : Reader α) : Reader α :=
  fun s =>
    match skipBlanks s with
    | [] => .error .truncated
    | c :: rest =>
        if c = '[' then
          (do
            let v ← fields
            mark ']'
            return v : Reader α) rest
        else if c = '\x7b' then members rest
        else .error (unexpected expected (c :: rest))

theorem shrinks_readRecord {expected : Text} {fields members : Reader α} (hf : Keeps fields)
    (hm : Keeps members) : Shrinks (readRecord expected fields members) := by
  intro s v rest h
  simp only [readRecord] at h
  split at h
  · cases h
  · next c tail hs =>
      refine Nat.lt_of_le_of_lt ?_ (length_lt_of_skipBlanks hs)
      split at h
      · exact (hf.bind fun _ => (shrinks_mark _).keeps.bind fun _ => keeps_pure _) h
      split at h
      · exact hm h
      · cases h

/-! ## Whole texts -/

/-- The value that a whole text holds; nothing but blanks may follow it. -/
def decode (item : Reader α) (s : Text) : Except Problem α :=
  match item s with
  | .error p => .error p
  | .ok (v, rest) => if (skipBlanks rest).isEmpty then .ok v else .error .malformed

end Declarator.Json
