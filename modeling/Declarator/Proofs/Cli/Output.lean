import Declarator.Proofs.Cli.Batch
import Declarator.Proofs.Cli.Input
import Declarator.Proofs.Signature.Json
import Declarator.Proofs.Signature.Outline

/-!
# What is printed loses nothing

A signature takes many lines, and signatures are printed with nothing between them. Still each ends
where it must: as JSON because it can be read back, whatever follows, and as an outline because
outlines are told by their text.

* `tellsApart_render`: the text of a signature in either form.
* `run_stdout_eq_iff`: **two runs** print the same only if they accept the same signatures.
-/

namespace Declarator.Cli

open Json Signature Text

/-- **A printed signature** ends where it must, in either form. -/
theorem tellsApart_render (form : Form) (s s' : Signature) : TellsApart form.render s s' := by
  intro t t' he
  cases form with
  | outline =>
      have hpretty : s.outline.pretty 0 ++ '\n' :: t = s'.outline.pretty 0 ++ '\n' :: t' := by
        simpa [Form.render] using he
      have hend : ∀ u, Outline.EndsPart ('\n' :: u) := Outline.endsPart_cons (by decide) (by decide)
      obtain ⟨houtline, hrest⟩ := Outline.manyLines.isTold_of_isPlain s.isPlain_outline
        s'.isPlain_outline (hend t) (hend t') hpretty
      exact ⟨outline_injective houtline, (List.cons.inj hrest).2⟩
  | json =>
      have hpretty : s.toJson.pretty 0 ++ '\n' :: t = s'.toJson.pretty 0 ++ '\n' :: t' := by
        simpa [Form.render] using he
      have hread := readsAs_reader s (spelled_pretty 0 s.toJson) ('\n' :: t)
      rw [hpretty, readsAs_reader s' (spelled_pretty 0 s'.toJson)] at hread
      obtain ⟨rfl, hrest⟩ := Prod.mk.inj (Except.ok.inj hread)
      exact ⟨rfl, (List.cons.inj hrest).2.symm⟩

theorem render_append_ne_nil (form : Form) (s : Signature) (t : Text) : form.render s ++ t ≠ [] := by
  cases form <;> simp [Form.render]

theorem flatMap_render_inj {form : Form} {signatures signatures' : List Signature} :
    signatures.flatMap form.render = signatures'.flatMap form.render ↔
      signatures = signatures' := by
  constructor
  · intro h
    rw [← List.append_nil (signatures.flatMap _), ← List.append_nil (signatures'.flatMap _)] at h
    exact (flatMap_append_inj (fun s _ s' _ => tellsApart_render form s s')
      (fun s _ => render_append_ne_nil form s) (fun s _ => render_append_ne_nil form s) h).1
  · rintro rfl
    rfl

theorem stdout_run_of_given {arguments : List Text} {input : List UInt8} {o : Options}
    {texts : List Text} (hread : readArguments arguments = .read o)
    (hgiven : Given o.signatures input texts) :
    (run arguments input).stdout = (accepted texts).flatMap o.form.render := by
  rw [run, hread, Request.outcome, hgiven.outcome_eq o.flags, batch_eq]

/-- **What is printed loses nothing.** Two runs that read signatures, and print them in the same
form, print the same exactly if they accept the same signatures in the same order. -/
theorem run_stdout_eq_iff {arguments arguments' : List Text} {input input' : List UInt8}
    {o o' : Options} {texts texts' : List Text} (hread : readArguments arguments = .read o)
    (hread' : readArguments arguments' = .read o') (hgiven : Given o.signatures input texts)
    (hgiven' : Given o'.signatures input' texts') (hform : o.json = o'.json) :
    (run arguments input).stdout = (run arguments' input').stdout ↔
      accepted texts = accepted texts' := by
  have hforms : o.form = o'.form := by rw [Options.form, Options.form, hform]
  rw [stdout_run_of_given hread hgiven, stdout_run_of_given hread' hgiven', hforms,
    flatMap_render_inj]

/-- Words that look like the end of one record and the beginning of the next, and that differ in a
backslash. -/
theorem run_stdout_ne_of_one_more_backslash :
    (run ["-v".toList, "a\"\\ b()".toList, "\x7d\n\x7b".toList, "c\",\\n\x7d\x7b d()".toList]
      []).stdout ≠
      (run ["-vv".toList] (Utf8.encode
        ("\t".toList ++ '\n' :: ("a\"\\ b( ) ".toList ++ '\r' :: '\n' ::
          "c\",\\\\n\x7d\x7b d()".toList)))).stdout := by
  have hlines : WrittenLines ["\t".toList, "a\"\\ b( ) ".toList, "c\",\\\\n\x7d\x7b d()".toList]
      ("\t".toList ++ '\n' :: ("a\"\\ b( ) ".toList ++ '\r' :: '\n' ::
        "c\",\\\\n\x7d\x7b d()".toList)) :=
    .feed (by decide) (by decide) (.returnFeed (by decide) (.unended (by decide) (by decide)))
  have hread : readArguments ["-v".toList, "a\"\\ b()".toList, "\x7d\n\x7b".toList,
      "c\",\\n\x7d\x7b d()".toList] =
      .read ⟨[.verbose],
        ["a\"\\ b()".toList, "\x7d\n\x7b".toList, "c\",\\n\x7d\x7b d()".toList]⟩ := by
    decide
  have hread' : readArguments ["-vv".toList] = .read ⟨[.verbose, .verbose], []⟩ := by decide
  exact mt (run_stdout_eq_iff hread hread' (.arguments (by decide) []) (.input hlines) rfl).1
    (by decide +kernel)

end Declarator.Cli
