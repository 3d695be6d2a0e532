import Declarator.Text.Basic

/-!
# UTF-8

- `Utf8.encode` and `Utf8.decode?` : a text as bytes, and the text that bytes hold, if any.
- `Utf8.decode?_eq_some_iff` : bytes hold a text exactly when they are its encoding.
-/

namespace Declarator.Utf8

/-- The bytes of a text. -/
def encode (t : Text) : List UInt8 :=
  t.flatMap String.utf8EncodeChar

/-- The text that the bytes hold, if they are well formed. -/
def decode? (bytes : List UInt8) : Option Text :=
  bytes.toByteArray.utf8Decode?.map Array.toList

theorem utf8Encode_eq (t : Text) : t.utf8Encode = (encode t).toByteArray := rfl

theorem toByteArray_inj {a b : List UInt8} : a.toByteArray = b.toByteArray ↔ a = b := by
  constructor
  · intro h
    simpa using congrArg (·.data.toList) h
  · rintro rfl
    rfl

theorem decode?_encode (t : Text) : decode? (encode t) = some t := by
  rw [decode?, ← utf8Encode_eq, List.utf8Decode?_utf8Encode]
  rfl

theorem decode?_eq_some_iff {bytes : List UInt8} {t : Text} :
    decode? bytes = some t ↔ bytes = encode t := by
  constructor
  · intro h
    obtain ⟨chars, hc, rfl⟩ := Option.map_eq_some_iff.1 h
    have hs : bytes.toByteArray.utf8Decode?.isSome = true := by simp [hc]
    have he := ByteArray.utf8Encode_get_utf8Decode? (h := hs)
    simp only [hc, Option.get_some] at he
    exact (toByteArray_inj.1 he).symm
  · rintro rfl
    exact decode?_encode t

theorem decode?_eq_none_iff {bytes : List UInt8} :
    decode? bytes = none ↔ ¬ bytes.toByteArray.IsValidUTF8 := by
  rw [decode?, Option.map_eq_none_iff, ← ByteArray.isSome_utf8Decode?_iff, Bool.not_eq_true,
    Option.isSome_eq_false_iff, Option.isNone_iff_eq_none]

end Declarator.Utf8
