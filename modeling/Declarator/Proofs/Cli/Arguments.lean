import Declarator.Cli.Grammar

/-!
# Reading a command line

A command line is read as the flags and signatures that it is written for, and no other command
line is read as them. The flags alone decide whether a run reads signatures or meets another
request at once; the flags that do not bear on this may be left out of account.

* `Options.takeAll`: flags taken one by one.
* `readArguments_of_written`: what a command line is read as.
* `writtenArguments_of_read`: every command line that is accepted is written in this way.
* `takeAll_without`, `takeAll_pair`: leaving a flag out of account.
* `AreSettings.takeAll_eq`: flags that are never refused.
-/

namespace Declarator.Cli

/-- A request is met at once that reads no signatures. -/
def MetAtOnce (e : Except Request Options) : Prop :=
  ∃ r, e = .error r ∧ ∀ options, r ≠ .read options

theorem MetAtOnce.bind {e : Except Request Options} (h : MetAtOnce e)
    (f : Options → Except Request Options) : MetAtOnce (e >>= f) := by
  obtain ⟨r, rfl, hr⟩ := h
  exact ⟨r, rfl, hr⟩

namespace Options

/-! ### Flags one by one -/

/-- The options after flags in order, or the request that is met at once. -/
def takeAll (o : Options) (flags : List Flag) : Except Request Options :=
  flags.foldlM Options.take o

/-- The options with other signatures. -/
def withSignatures (o : Options) (signatures : List Text) : Options :=
  { o with signatures := signatures }

variable (o : Options)

@[simp] theorem takeAll_nil : o.takeAll [] = .ok o := rfl

theorem takeAll_cons (flag : Flag) (flags : List Flag) :
    o.takeAll (flag :: flags) = o.take flag >>= fun more => more.takeAll flags :=
  List.foldlM_cons

theorem takeAll_append (flags more : List Flag) :
    o.takeAll (flags ++ more) = o.takeAll flags >>= fun o' => o'.takeAll more :=
  List.foldlM_append

/-- A flag is added, or a request is met at once. -/
theorem take_cases (flag : Flag) :
    o.take flag = .ok (o.addFlag flag) ∨ MetAtOnce (o.take flag) := by
  cases flag with
  | json =>
      by_cases h : o.json = true
      · exact .inr ⟨.mistake (.repeated .json), by simp [take, h], by simp⟩
      · exact .inl (by simp [take, h])
  | verbose => exact .inl rfl
  | help => exact .inr ⟨.help, rfl, by simp⟩
  | version => exact .inr ⟨.version, rfl, by simp⟩

/-- All flags are added, or a request is met at once. -/
theorem takeAll_cases (flags : List Flag) :
    o.takeAll flags = .ok ⟨o.flags ++ flags, o.signatures⟩ ∨ MetAtOnce (o.takeAll flags) := by
  induction flags generalizing o with
  | nil => exact .inl (by simp)
  | cons flag flags ih =>
      rw [takeAll_cons]
      rcases o.take_cases flag with h | h
      · have hrest := ih (o.addFlag flag)
        rw [addFlag, List.append_assoc, List.singleton_append] at hrest
        rw [h]
        exact hrest
      · exact .inr (h.bind _)

/-! ### Flags and signatures -/

@[simp] theorem signatures_withSignatures (signatures : List Text) :
    (o.withSignatures signatures).signatures = signatures := rfl

theorem take_withSignatures (signatures : List Text) (flag : Flag) :
    (o.withSignatures signatures).take flag = (o.take flag).map (·.withSignatures signatures) := by
  cases flag with
  | json =>
      have hj : (o.withSignatures signatures).json = o.json := rfl
      rw [take, take, hj]
      cases o.json with
      | false => rfl
      | true => rfl
  | _ => rfl

theorem takeAll_withSignatures (signatures : List Text) (flags : List Flag) :
    (o.withSignatures signatures).takeAll flags =
      (o.takeAll flags).map (·.withSignatures signatures) := by
  induction flags generalizing o with
  | nil => rfl
  | cons flag flags ih =>
      rw [takeAll_cons, takeAll_cons, take_withSignatures]
      cases o.take flag with
      | error r => rfl
      | ok o' => exact ih o'

theorem foldl_addSignature (signatures : List Text) :
    signatures.foldl addSignature o = o.withSignatures (o.signatures ++ signatures) := by
  induction signatures generalizing o with
  | nil => simp [withSignatures]
  | cons s signatures ih => simp [ih, addSignature, withSignatures]

end Options

/-! ### One argument -/

theorem Flag.ofLetter?_eq_some_iff {c : Char} {flag : Flag} :
    Flag.ofLetter? c = some flag ↔ flag.letter? = some c := by
  constructor
  · intro h
    simpa using List.find?_some h
  · cases flag with
    | json => simp [Flag.letter?]
    | _ =>
        intro h
        cases h
        rfl

theorem Flag.ofName?_eq_some_iff {name : Text} {flag : Flag} :
    Flag.ofName? name = some flag ↔ flag.name = name := by
  constructor
  · intro h
    simpa using List.find?_some h
  · rintro rfl
    cases flag <;> rfl

theorem Flag.letter?_ne_dash (flag : Flag) : flag.letter? ≠ some '-' := by
  cases flag <;> decide

theorem takeLong_name (o : Options) (flag : Flag) : takeLong o flag.name = o.take flag := by
  cases flag <;> rfl

theorem takeLetters_eq_takeAll (o : Options) {flags : List Flag} {letters : Text}
    (h : flags.map Flag.letter? = letters.map some) : takeLetters o letters = o.takeAll flags := by
  induction letters generalizing o flags with
  | nil =>
      rw [List.map_nil, List.map_eq_nil_iff] at h
      rw [h]
      rfl
  | cons c letters ih =>
      obtain ⟨flag, flags, rfl, hflag, hflags⟩ := List.map_eq_cons_iff.1 h
      rw [takeLetters, Flag.ofLetter?_eq_some_iff.2 hflag, Options.takeAll_cons]
      exact congrArg (o.take flag >>= ·) (funext fun more => ih more hflags)

/-- An argument that asks for flags is these flags, and does not end the options. -/
theorem takeArgument_of_writtenFlags (o : Options) {flags : List Flag} {argument : Text}
    (h : WrittenFlags flags argument) :
    argument ≠ ['-', '-'] ∧ takeArgument o argument = o.takeAll flags := by
  cases h with
  | name flag =>
      refine ⟨by cases flag <;> decide, ?_⟩
      rw [takeArgument, takeLong_name, Options.takeAll_cons]
      cases o.take flag with
      | error r => rfl
      | ok o' => rfl
  | @letters flags letters hne h =>
      obtain ⟨c, cs, rfl⟩ := List.exists_cons_of_ne_nil hne
      obtain ⟨flag, more, rfl, hflag, -⟩ := List.map_eq_cons_iff.1 h
      have hc : c ≠ '-' := by
        rintro rfl
        exact flag.letter?_ne_dash hflag
      refine ⟨by simp [hc], ?_⟩
      rw [takeArgument, takeLetters_eq_takeAll o h]
      simpa using hc

theorem takeArgument_of_isOperand (o : Options) {argument : Text} (h : IsOperand argument) :
    argument ≠ ['-', '-'] ∧ takeArgument o argument = .ok (o.addSignature argument) := by
  cases argument with
  | nil => exact ⟨by decide, rfl⟩
  | cons c t =>
      by_cases hc : c = '-'
      · subst hc
        rw [h rfl]
        exact ⟨by decide, rfl⟩
      · refine ⟨by simp [hc], ?_⟩
        simp [takeArgument, hc]

/-! ### Command lines -/

theorem takeArguments_cons (o : Options) {argument : Text} (h : argument ≠ ['-', '-'])
    (arguments : List Text) :
    takeArguments o (argument :: arguments) =
      takeArgument o argument >>= fun more => takeArguments more arguments := by
  rw [takeArguments, if_neg h]

theorem takeArguments_of_written {flags : List Flag} {signatures arguments : List Text}
    (h : WrittenArguments flags signatures arguments) (o : Options) :
    takeArguments o arguments =
      (o.takeAll flags).map (·.withSignatures (o.signatures ++ signatures)) := by
  induction h generalizing o with
  | nil =>
      rw [List.append_nil]
      rfl
  | ended signatures =>
      rw [takeArguments, if_pos rfl, Options.foldl_addSignature]
      rfl
  | @flags flags more signatures argument arguments h _ ih =>
      obtain ⟨hne, htake⟩ := takeArgument_of_writtenFlags o h
      rw [takeArguments_cons o hne, htake, Options.takeAll_append]
      rcases o.takeAll_cases flags with hall | ⟨r, hall, -⟩
      · rw [hall]
        exact ih ⟨o.flags ++ flags, o.signatures⟩
      · rw [hall]
        rfl
  | @operand flags signatures argument arguments h _ ih =>
      obtain ⟨hne, htake⟩ := takeArgument_of_isOperand o h
      have hwith : o.addSignature argument = o.withSignatures (o.signatures ++ [argument]) := rfl
      rw [takeArguments_cons o hne, htake, hwith]
      refine (ih _).trans ?_
      rw [Options.signatures_withSignatures, Options.takeAll_withSignatures, List.append_assoc,
        List.singleton_append]
      cases o.takeAll flags with
      | error r => rfl
      | ok o' => rfl

/-- **What a command line is read as**: its flags and signatures, or the request that the flags
meet at once, which reads no signatures. -/
theorem readArguments_of_written {flags : List Flag} {signatures arguments : List Text}
    (h : WrittenArguments flags signatures arguments) :
    (Options.initial.takeAll flags = .ok ⟨flags, []⟩ ∧
        readArguments arguments = .read ⟨flags, signatures⟩) ∨
      ∃ r, Options.initial.takeAll flags = .error r ∧ readArguments arguments = r ∧
        ∀ options, r ≠ .read options := by
  have hread := takeArguments_of_written h .initial
  rcases Options.initial.takeAll_cases flags with hall | ⟨r, hall, hr⟩
  · refine .inl ⟨hall, ?_⟩
    rw [readArguments, hread, hall]
    rfl
  · refine .inr ⟨r, hall, ?_, hr⟩
    rw [readArguments, hread, hall]
    rfl

/-! ### Command lines that are accepted -/

theorem takeLetters_cases (o : Options) (letters : Text) :
    (∃ flags : List Flag, flags.map Flag.letter? = letters.map some ∧
        takeLetters o letters = .ok ⟨o.flags ++ flags, o.signatures⟩) ∨
      MetAtOnce (takeLetters o letters) := by
  induction letters generalizing o with
  | nil => exact .inl ⟨[], rfl, by simp [takeLetters]⟩
  | cons c letters ih =>
      cases hflag : Flag.ofLetter? c with
      | none => exact .inr ⟨.mistake (.unknownLetter c), by simp [takeLetters, hflag], by simp⟩
      | some flag =>
          have hcons : takeLetters o (c :: letters) =
              o.take flag >>= fun more => takeLetters more letters := by
            rw [takeLetters, hflag]
          rw [hcons]
          rcases o.take_cases flag with htake | htake
          · rw [htake]
            rcases ih (o.addFlag flag) with ⟨flags, hflags, hok⟩ | hmet
            · refine .inl ⟨flag :: flags, ?_, ?_⟩
              · rw [List.map_cons, List.map_cons, hflags, Flag.ofLetter?_eq_some_iff.1 hflag]
              · rw [Options.addFlag, List.append_assoc, List.singleton_append] at hok
                exact hok
            · exact .inr hmet
          · exact .inr (htake.bind _)

theorem takeLong_cases (o : Options) (body : Text) :
    (∃ flag : Flag, body = flag.name ∧ takeLong o body = .ok (o.addFlag flag)) ∨
      MetAtOnce (takeLong o body) := by
  have hbody := List.takeWhile_append_dropWhile (p := (· != '=')) (l := body)
  cases hflag : Flag.ofName? (body.takeWhile (· != '=')) with
  | none =>
      simp only [takeLong, hflag]
      exact .inr ⟨_, rfl, by simp⟩
  | some flag =>
      cases hrest : body.dropWhile (· != '=') with
      | cons c value =>
          simp only [takeLong, hflag, hrest]
          exact .inr ⟨_, rfl, by simp⟩
      | nil =>
          have hlong : takeLong o body = o.take flag := by simp only [takeLong, hflag, hrest]
          rw [hrest, List.append_nil] at hbody
          rw [hlong]
          rcases o.take_cases flag with htake | hmet
          · exact .inl ⟨flag, ((Flag.ofName?_eq_some_iff.1 hflag).trans hbody).symm, htake⟩
          · exact .inr hmet

/-- An argument asks for flags or is a signature, or a request is met at once. -/
theorem takeArgument_cases (o : Options) (argument : Text) :
    (∃ flags, WrittenFlags flags argument ∧
        takeArgument o argument = .ok ⟨o.flags ++ flags, o.signatures⟩) ∨
      (IsOperand argument ∧ takeArgument o argument = .ok (o.addSignature argument)) ∨
      MetAtOnce (takeArgument o argument) := by
  unfold takeArgument
  split
  · rename_i body
    rcases takeLong_cases o body with ⟨flag, rfl, hok⟩ | hmet
    · exact .inl ⟨[flag], .name flag, hok⟩
    · exact .inr (.inr hmet)
  · rename_i c letters _
    rcases takeLetters_cases o (c :: letters) with ⟨flags, hflags, hok⟩ | hmet
    · exact .inl ⟨flags, .letters (List.cons_ne_nil _ _) hflags, hok⟩
    · exact .inr (.inr hmet)
  · rename_i hletters
    refine .inr (.inl ⟨fun hdash => ?_, rfl⟩)
    obtain ⟨t, rfl⟩ := List.head?_eq_some_iff.1 hdash
    cases t with
    | nil => rfl
    | cons c letters => exact absurd rfl (hletters c letters)

theorem takeArguments_cases (o : Options) (arguments : List Text) :
    (∃ flags signatures, WrittenArguments flags signatures arguments ∧
        takeArguments o arguments = .ok ⟨o.flags ++ flags, o.signatures ++ signatures⟩) ∨
      MetAtOnce (takeArguments o arguments) := by
  induction arguments generalizing o with
  | nil => exact .inl ⟨[], [], .nil, by simp [takeArguments]⟩
  | cons argument arguments ih =>
      by_cases hend : argument = ['-', '-']
      · refine .inl ⟨[], arguments, hend ▸ .ended arguments, ?_⟩
        rw [takeArguments, if_pos hend, Options.foldl_addSignature, List.append_nil]
        rfl
      · rw [takeArguments_cons o hend]
        rcases takeArgument_cases o argument with ⟨flags, hflags, hok⟩ | ⟨hop, hok⟩ | hmet
        · rw [hok]
          rcases ih ⟨o.flags ++ flags, o.signatures⟩ with ⟨more, signatures, hs, hok⟩ | hmet
          · rw [List.append_assoc] at hok
            exact .inl ⟨flags ++ more, signatures, .flags hflags hs, hok⟩
          · exact .inr hmet
        · rw [hok]
          rcases ih (o.addSignature argument) with ⟨flags, signatures, hs, hok⟩ | hmet
          · rw [Options.addSignature, List.append_assoc, List.singleton_append] at hok
            exact .inl ⟨flags, argument :: signatures, .operand hop hs, hok⟩
          · exact .inr hmet
        · exact .inr (hmet.bind _)

/-- **Every command line that is accepted** is written for the flags and signatures that it is
read as. -/
theorem writtenArguments_of_read {arguments : List Text} {o : Options}
    (h : readArguments arguments = .read o) :
    WrittenArguments o.flags o.signatures arguments := by
  rw [readArguments] at h
  rcases takeArguments_cases .initial arguments with ⟨flags, signatures, hs, hok⟩ | ⟨r, herr, hr⟩
  · rw [hok] at h
    cases h
    exact hs
  · rw [herr] at h
    exact absurd h (hr o)

/-! ### Flags that are left out of account -/

namespace Options

/-- The options without a flag. -/
def without (o : Options) (flag : Flag) : Options :=
  { o with flags := o.flags.filter (· != flag) }

theorem addFlag_without_self (o : Options) (flag : Flag) :
    (o.addFlag flag).without flag = o.without flag := by
  simp [addFlag, without]

theorem addFlag_without_of_ne (o : Options) {flag other : Flag} (h : other ≠ flag) :
    (o.addFlag other).without flag = (o.without flag).addFlag other := by
  simp [addFlag, without, h]

theorem take_without_of_ne (o : Options) {flag other : Flag} (h : other ≠ flag) :
    (o.without flag).take other = (o.take other).map (·.without flag) := by
  cases other with
  | json =>
      have hjson : (o.without flag).json = o.json := by
        rw [Bool.eq_iff_iff, json, json, List.contains_iff_mem, List.contains_iff_mem, without,
          List.mem_filter, bne_iff_ne]
        exact and_iff_left h
      rw [take, take, hjson]
      cases o.json with
      | false => exact congrArg Except.ok (o.addFlag_without_of_ne h).symm
      | true => rfl
  | verbose => exact congrArg Except.ok (o.addFlag_without_of_ne h).symm
  | help => rfl
  | version => rfl

/-- A flag that is always added may be left out of account: a request for a more detailed log, or
the request for JSON, if it is made only once. -/
theorem takeAll_without (o : Options) {flag : Flag} {flags : List Flag}
    (h : flag = .verbose ∨ flag = .json ∧ (o.flags ++ flags).count .json ≤ 1) :
    (o.takeAll flags).map (·.without flag) = (o.without flag).takeAll (flags.filter (· != flag)) := by
  induction flags generalizing o with
  | nil => rfl
  | cons other flags ih =>
      have hrest : flag = .verbose ∨
          flag = .json ∧ ((o.addFlag other).flags ++ flags).count .json ≤ 1 := by
        rw [addFlag, List.append_assoc, List.singleton_append]
        exact h
      rw [takeAll_cons]
      by_cases hother : other = flag
      · subst hother
        have htake : o.take other = .ok (o.addFlag other) := by
          rcases h with rfl | ⟨rfl, hcount⟩
          · rfl
          · -- This is the only request for JSON, so no other came before it.
            have hjson : o.json = false := by
              rw [List.count_append, List.count_cons_self] at hcount
              have hzero : o.flags.count .json = 0 := by omega
              rw [json, List.contains_eq_mem]
              exact decide_eq_false (List.count_eq_zero.1 hzero)
            rw [take, hjson]
            rfl
        rw [htake, List.filter_cons_of_neg (by simp), ← o.addFlag_without_self other]
        exact ih _ hrest
      · rw [List.filter_cons_of_pos (by simpa using hother), takeAll_cons,
          o.take_without_of_ne hother]
        rcases o.take_cases other with htake | ⟨r, htake, -⟩
        · rw [htake]
          exact ih _ hrest
        · rw [htake]
          rfl

/-- Flags that differ only in one that is always added meet the same request at once, or all of
them are added. -/
theorem takeAll_pair {flag : Flag} {flags flags' : List Flag}
    (h : flag = .verbose ∨ flag = .json ∧ flags.count .json ≤ 1)
    (h' : flag = .verbose ∨ flag = .json ∧ flags'.count .json ≤ 1)
    (hrest : flags.filter (· != flag) = flags'.filter (· != flag)) :
    (initial.takeAll flags = .ok ⟨flags, []⟩ ∧ initial.takeAll flags' = .ok ⟨flags', []⟩) ∨
      ∃ r, initial.takeAll flags = .error r ∧ initial.takeAll flags' = .error r := by
  have hall : (initial.takeAll flags).map (·.without flag) =
      (initial.takeAll flags').map (·.without flag) := by
    rw [initial.takeAll_without h, initial.takeAll_without h', hrest]
  rcases initial.takeAll_cases flags with htake | ⟨r, herr, -⟩
  · rcases initial.takeAll_cases flags' with htake' | ⟨r', herr', -⟩
    · exact .inl ⟨htake, htake'⟩
    · rw [htake, herr'] at hall
      cases hall
  · rcases initial.takeAll_cases flags' with htake' | ⟨r', herr', -⟩
    · rw [herr, htake'] at hall
      cases hall
    · rw [herr, herr'] at hall
      cases hall
      exact .inr ⟨r, herr, herr'⟩

/-- Flags that settle how signatures are read: any number of requests for a more detailed log, and
at most one request for JSON. -/
structure AreSettings (flags : List Flag) : Prop where
  verbose_or_json : ∀ flag ∈ flags, flag = .verbose ∨ flag = .json
  count_json_le : flags.count .json ≤ 1

theorem AreSettings.takeAll_eq {flags : List Flag} (h : AreSettings flags) :
    initial.takeAll flags = .ok ⟨flags, []⟩ := by
  -- Without the requests for a more detailed log there is at most a request for JSON.
  have hjson : flags.filter (· != .verbose) = List.replicate (flags.count .json) .json := by
    rw [← List.filter_beq]
    refine List.filter_congr fun flag hflag => ?_
    rcases h.verbose_or_json flag hflag with rfl | rfl <;> rfl
  have hrest : flags.filter (· != .verbose) =
      (flags.filter (· != .verbose)).filter (· != .verbose) := by
    rw [List.filter_filter]
    simp
  rcases takeAll_pair (.inl rfl) (.inl rfl) hrest with ⟨htake, -⟩ | ⟨r, -, herr⟩
  · exact htake
  · have hcount := h.count_json_le
    rw [hjson] at herr
    match hn : flags.count .json with
    | 0 =>
        rw [hn] at herr
        cases herr
    | 1 =>
        rw [hn] at herr
        cases herr
    | n + 2 => omega

end Options

end Declarator.Cli
