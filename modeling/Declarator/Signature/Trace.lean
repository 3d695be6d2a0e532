import Declarator.Log.Record
import Declarator.Signature.Outline
import Declarator.Signature.Parser

/-!
# What reading a signature logs

- `Signature.records` : a record before the text is read, and one more if it is a signature.
-/

namespace Declarator.Signature

open Log

/-- The part of the program that reads signatures. -/
def target : Text := "method_sig::parser::signature".toList

/-- Said before a text is read. -/
def startRecord (text : Text) : Record :=
  ⟨.trace, target, "parsing method signature ".toList ++ Text.quoted text⟩

/-- Said after a text has been read. -/
def successRecord (text : Text) (s : Signature) : Record :=
  ⟨.debug, target,
    "parsed ".toList ++ Text.quoted text ++ " into ".toList ++ s.outline.compact⟩

/-- The records of reading a text, in order. -/
def records (text : Text) : List Record :=
  startRecord text ::
    match parse text with
    | .ok s => [successRecord text s]
    | .error _ => []

end Declarator.Signature
