import Declarator.Proofs.Json.FirstProblem
import Declarator.Signature.Json

/-!
# The first problem of a signature in JSON

Signatures, arguments and modifiers are read by readers that go from the left and stop at the first
problem. So a text that holds something else than was wanted is refused for it, whatever comes
behind. That is so under either rule for the key of a modifier's object.

* `Modifier.persists_readerUnder`, `Argument.persists_reader`, `Signature.persists_readerUnder`: the
  readers.
* `Signature.decode_append_eq_error`: **whole texts.**
-/

namespace Declarator

open Json

variable {t : Text}

/-! ### Modifiers -/

namespace Modifier

theorem persists_named (name : Text) : Persists (named name) t := by
  unfold named
  split
  · exact persists_pure _
  · exact persists_error _

theorem problemPersists_key (ht : EndsNumber t) (rule : KeyRule) :
    ProblemPersists rule.problem t := by
  cases rule with
  | malformed => exact problemPersists_const _
  | mismatch => exact problemPersists_unexpected ht _

theorem persists_keyed (ht : EndsNumber t) (rule : KeyRule) : Persists (keyed rule) t := by
  have hkey := persists_readStringOr (problemPersists_key ht rule)
  exact (hkey.bind persists_named).bind fun m => (persists_mark ':').bind fun _ =>
    (persists_readNull ht).bind fun _ => (persists_mark '\x7d').bind fun _ => persists_pure m

theorem persists_readerUnder (ht : EndsNumber t) (rule : KeyRule) :
    Persists (readerUnder rule) t := by
  refine persists_front fun c => persists_ite (fun _ => ?_) fun _ => ?_
  · exact ((persists_readString ht).bind persists_named).cons c
  · exact persists_ite (fun _ => persists_keyed ht rule) fun _ => persists_error _

end Modifier

/-! ### Arguments -/

namespace Argument

theorem persists_visit (ht : EndsNumber t) (d : Draft) (key : Text) :
    Persists (d.visit key) t := by
  have hstring := persists_readString ht
  unfold Draft.visit
  split
  · exact (persists_once hstring _ _).bind fun _ => persists_pure _
  split
  · exact (persists_once hstring _ _).bind fun _ => persists_pure _
  · exact (persists_ignored ht).bind fun _ => persists_pure _

theorem persists_finish (d : Draft) : Persists d.finish t := by
  unfold Draft.finish
  split
  · exact persists_pure _
  · exact persists_error _
  · exact persists_error _

theorem persists_fields (ht : EndsNumber t) : Persists fields t := by
  have hstring := persists_readString ht
  refine (persists_placed hstring 0 expected 2).bind fun type => ?_
  exact (persists_placed hstring 1 expected 2).bind fun name => persists_pure _

theorem persists_reader (ht : EndsNumber t) : Persists reader t :=
  persists_readRecord ht expected (persists_fields ht)
    ((persists_readMembers (persists_visit ht) true ⟨none, none⟩).bind persists_finish)

end Argument

/-! ### Signatures -/

namespace Signature

variable (rule : Modifier.KeyRule)

theorem persists_readModifier (ht : EndsNumber t) : Persists (readModifier rule) t :=
  persists_readOptional (Modifier.persists_readerUnder ht rule)

theorem persists_readArguments (ht : EndsNumber t) : Persists readArguments t :=
  persists_readList ht (Argument.persists_reader ht)

theorem persists_visit (ht : EndsNumber t) (d : Draft) (key : Text) :
    Persists (d.visit rule key) t := by
  have hstring := persists_readString ht
  unfold Draft.visit
  split
  · exact (persists_once (persists_readModifier rule ht) _ _).bind fun _ => persists_pure _
  split
  · exact (persists_once hstring _ _).bind fun _ => persists_pure _
  split
  · exact (persists_once hstring _ _).bind fun _ => persists_pure _
  split
  · exact (persists_once (persists_readArguments ht) _ _).bind fun _ => persists_pure _
  · exact (persists_ignored ht).bind fun _ => persists_pure _

theorem persists_finish (d : Draft) : Persists d.finish t := by
  unfold Draft.finish
  split
  · exact persists_pure _
  · exact persists_error _
  · exact persists_error _
  · exact persists_error _

theorem persists_fields (ht : EndsNumber t) : Persists (fields rule) t := by
  have hstring := persists_readString ht
  refine (persists_placed (persists_readModifier rule ht) 0 expected 4).bind fun modifier => ?_
  refine (persists_placed hstring 1 expected 4).bind fun returnType => ?_
  refine (persists_placed hstring 2 expected 4).bind fun methodName => ?_
  exact (persists_placed (persists_readArguments ht) 3 expected 4).bind fun arguments =>
    persists_pure _

theorem persists_members (ht : EndsNumber t) : Persists (members rule) t :=
  (persists_readMembers (persists_visit rule ht) true ⟨none, none, none, none⟩).bind
    persists_finish

theorem persists_readerUnder (ht : EndsNumber t) : Persists (readerUnder rule) t :=
  persists_readRecord ht expected (persists_fields rule ht) (persists_members rule ht)

/-- **The first problem wins.** A text that is refused because it holds something else than was
wanted is refused for the same cause, and so with the same message, whatever is appended to it, as
long as a number at its end does not go on. -/
theorem decode_append_eq_error {s t : Text} {cause : Cause} (ht : EndsNumber t) :
    (decode (readerUnder rule) s = .error (.data cause) →
      decode (readerUnder rule) (s ++ t) = .error (.data cause)) ∧
    (decode Argument.reader s = .error (.data cause) →
      decode Argument.reader (s ++ t) = .error (.data cause)) ∧
    (decode (Modifier.readerUnder rule) s = .error (.data cause) →
      decode (Modifier.readerUnder rule) (s ++ t) = .error (.data cause)) := by
  refine ⟨?_, ?_, ?_⟩
  · intro h
    exact (persists_readerUnder rule ht).decode_append h
  · intro h
    exact (Argument.persists_reader ht).decode_append h
  · intro h
    exact (Modifier.persists_readerUnder ht rule).decode_append h

/-- A number at the end, a key that has occurred, a name that is no modifier, a number in place of a
name, and behind each what is no JSON. -/
theorem decode_append_eq_error_of_broken_rest :
    decode reader ("\x7b\"x\":[1,\x7b\x7d],\"return_type\" :-1.5e1".toList ++ ",]\"".toList) =
        .error (.data (.invalidType (.float true ⟨0x1e000000000000, -49⟩) "a string".toList)) ∧
      decode Argument.reader ("\x7b\"type\":\"\",\"type\"".toList ++ ",]\"".toList) =
        .error (.data (.duplicateField "type".toList)) ∧
      decode Modifier.reader ("\t\"\\u0050ublic\"".toList ++ ",]\"".toList) =
        .error (.data (.unknownVariant "Public".toList (Modifier.all.map Modifier.keyword))) ∧
      decode (readerUnder .mismatch) ("[\x7b 5".toList ++ ",]\"".toList) =
        .error (.data (.invalidType (.integer 5) "variant identifier".toList)) := by
  have ht : EndsNumber ",]\"".toList := (stops_cons (.inr (.inl rfl)) _).endsNumber
  refine ⟨?_, ?_, ?_, ?_⟩
  · exact (decode_append_eq_error .malformed ht).1 (by decide +kernel)
  · exact (decode_append_eq_error .malformed ht).2.1 (by decide +kernel)
  · exact (decode_append_eq_error .malformed ht).2.2 (by decide +kernel)
  · exact (decode_append_eq_error .mismatch ht).1 (by decide +kernel)

/-- A number goes on with a digit, and then another number was found. -/
example : decode Argument.reader ("[1".toList ++ "5]".toList) ≠
    decode Argument.reader "[1".toList := by
  decide +kernel

end Signature

end Declarator
