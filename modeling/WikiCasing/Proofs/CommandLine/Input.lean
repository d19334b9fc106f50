import WikiCasing.Proofs.CommandLine.Modes
import WikiCasing.Proofs.Console.Message
import WikiCasing.Proofs.Markup.Lines

/-!
# A document on standard input

A document is recased alike whether it is in a file or on standard input, but for its line ends: a
file is read as it is, and on standard input every line end is read as a line feed. So a caret may
lie in the one and not in the other, and then it is refused. If it lies in both, the two requests
end alike, and what is told of the one is told of the other with its line ends read
(`InputsAgree.printed`). What they print is the same exactly if the document holds no carriage
return (`recase_inputs_agree`).
-/

namespace WikiCasing.CommandLine

open Console (withoutSequences withoutSequences_lawful)

variable {echo : Text → Text} {t : Tree} {env : Environment} {stdin content : Text}
  {how : RecaseRequest}

/-! ## Requests about standard input -/

/-- The complaint about a caret that does not lie in a text. -/
def caretOutside (t : Tree) (text : Text) (caret? : Option Int) : Result :=
  .complain t 2 ("[red]Error: caret ".toList ++ Text.ofInt (caret?.getD 0) ++
    " outside 0..".toList ++ Text.ofNat text.length ++ "[/red]".toList)

theorem runRecase_stdin (how : RecaseRequest) (hplace : how.inPlace = false) :
    runRecase echo t env content { how with file := ['-'] } =
      if caretFits content.universalNewlines how.caret? then
        recaseText echo t env { how with file := ['-'] } content.universalNewlines
      else caretOutside t content.universalNewlines how.caret? := by
  rw [runRecase, if_neg (by simp [hplace]), readSource, if_pos rfl]
  rfl

theorem runRecase_file {p : Path} (hfile : how.file ≠ ['-']) (hplace : how.inPlace = false)
    (hleads : env.expandUser (Path.ofText how.file) = .ok p)
    (hholds : t.look env.workingDirectory p = .ok (some (.file (Utf8.encode content))))
    (hfits : caretFits content how.caret? = true) :
    runRecase echo t env stdin how = recaseText echo t env how content := by
  have hread : readSource t env stdin how.file = .ok content :=
    (readSource_eq_ok_iff hfile).mpr ⟨p, hleads, hholds⟩
  rw [runRecase, if_neg (by simp [hplace]), hread]
  dsimp only
  rw [if_pos hfits]

theorem untagged_ofNat (n : Nat) : Console.Untagged (Text.ofNat n) := by
  have hdigit {c : Char} (hc : c ∈ Text.ofNat n) : c.isDigit = true :=
    Nat.isDigit_of_mem_toDigits (by omega) (by omega) hc
  exact ⟨fun hc => absurd (hdigit hc) (by decide), fun hc => absurd (hdigit hc) (by decide)⟩

theorem untagged_ofInt (i : Int) : Console.Untagged (Text.ofInt i) := by
  obtain ⟨hopen, hescape⟩ := untagged_ofNat i.natAbs
  unfold Text.ofInt
  split
  · exact ⟨by simp [hopen], by simp [hescape]⟩
  · exact ⟨hopen, hescape⟩

theorem caretOutside_refused (t : Tree) (text : Text) (caret? : Option Int) :
    (caretOutside t text caret?).status = 2 ∧ (caretOutside t text caret?).output = [] := by
  have hcaret := untagged_ofInt (caret?.getD 0)
  have hlength := untagged_ofNat text.length
  have hwords : Console.Untagged ("Error: caret ".toList ++ Text.ofInt (caret?.getD 0) ++
      " outside 0..".toList ++ Text.ofNat text.length) := by
    refine ⟨?_, ?_⟩
    · simp [hcaret.1, hlength.1]
    · simp [hcaret.2, hlength.2]
  obtain ⟨shown, hshown⟩ := Console.exists_display_red hwords
  have hmessage : "[red]Error: caret ".toList ++ Text.ofInt (caret?.getD 0) ++
      " outside 0..".toList ++ Text.ofNat text.length ++ "[/red]".toList =
      "[red]".toList ++ ("Error: caret ".toList ++ Text.ofInt (caret?.getD 0) ++
        " outside 0..".toList ++ Text.ofNat text.length) ++ "[/red]".toList := by
    simp
  rw [caretOutside, Result.complain, hmessage, hshown]
  exact ⟨rfl, rfl⟩

/-! ## Recasing what has been read -/

variable {text : Text} {s : Settings}

theorem recasing_told (s : Settings) (text : Text) (caret? : Option Int) :
    (recasing s text caret?).text = recase s text ∧
      (recasing s text caret?).changed = decide (recase s text ≠ text) := by
  have h := recasing_eq ⟨Path.ofText [], text, s⟩ caret?
  exact ⟨congrArg Recasing.text h, congrArg Recasing.changed h⟩

theorem recaseText_of_error {e : StoreError} (hload : ({} : Store).load t env = .error e)
    (how : RecaseRequest) (text : Text) :
    recaseText echo t env how text = .complain t 2 (around "[red]Error: " e.message "[/red]") := by
  rw [recaseText, hload]

theorem recaseText_of_ok {notices : List Notice}
    (hload : ({} : Store).load t env = .ok (s, notices)) (how : RecaseRequest)
    (hplace : how.inPlace = false) (text : Text) :
    recaseText echo t env how text =
      if how.checkOnly then
        if recase s text ≠ text then
          .complain t 1 ("[yellow]Would rewrite:[/yellow] ".toList ++ Console.escape how.file)
        else { tree := t }
      else { tree := t, output := (recasing s text how.caret?).print echo how.asJson } := by
  rw [recaseText, hload]
  dsimp only
  rw [if_neg (by simp [hplace] : ¬ how.inPlace = true), (recasing_told s text how.caret?).2]
  simp only [decide_eq_true_iff]

theorem recaseText_printed {notices : List Notice}
    (hload : ({} : Store).load t env = .ok (s, notices)) (how : RecaseRequest)
    (hplace : how.inPlace = false) (hcheck : how.checkOnly = false) (text : Text) :
    recaseText echo t env how text =
      { tree := t, output := (recasing s text how.caret?).print echo how.asJson } := by
  rw [recaseText_of_ok hload how hplace, if_neg (by simp [hcheck])]

theorem tree_recaseText (hplace : how.inPlace = false) :
    (recaseText echo t env how text).tree = t := by
  cases hload : ({} : Store).load t env with
  | error e =>
      rw [recaseText_of_error hload]
      exact Result.tree_complain ..
  | ok loaded =>
      rw [recaseText_of_ok hload how hplace]
      split
      · split
        · exact Result.tree_complain ..
        · rfl
      · rfl

theorem output_recaseText (hplace : how.inPlace = false) (file : Text) :
    (recaseText echo t env { how with file := file } text).output =
      (recaseText echo t env how text).output := by
  cases hload : ({} : Store).load t env with
  | error e => rw [recaseText_of_error hload, recaseText_of_error hload]
  | ok loaded =>
      rw [recaseText_of_ok hload how hplace,
        recaseText_of_ok hload { how with file := file } hplace]
      split
      · split
        · rw [Result.output_complain, Result.output_complain]
        · rfl
      · rfl

/-- Whatever the name of the file, and whether or not the line ends have been read, the end is the
same. -/
theorem status_recaseText (hplace : how.inPlace = false) (file : Text) :
    (recaseText echo t env { how with file := file } text.universalNewlines).status =
      (recaseText echo t env how text).status := by
  have hfound (message : Text) : (Result.complain t 1 message).status = 1 := by
    have hstatus := Result.status_complain t 1 message
    omega
  cases hload : ({} : Store).load t env with
  | error e => rw [recaseText_of_error hload, recaseText_of_error hload]
  | ok loaded =>
      rw [recaseText_of_ok hload how hplace,
        recaseText_of_ok hload { how with file := file } hplace]
      simp only [ne_eq, recase_universalNewlines_eq_self_iff]
      split
      · split
        · rw [hfound, hfound]
        · rfl
      · rfl

theorem exists_load_of_status (h : (recaseText echo t env how text).status = 0) :
    ∃ s notices, ({} : Store).load t env = .ok (s, notices) := by
  cases hload : ({} : Store).load t env with
  | ok loaded => exact ⟨loaded.1, loaded.2, rfl⟩
  | error e =>
      have hstatus := Result.status_complain t 2 (around "[red]Error: " e.message "[/red]")
      rw [recaseText_of_error hload] at h
      omega

theorem outsideSequences_return : Console.OutsideSequences '\r' :=
  ⟨by decide, by decide, by decide, by decide⟩

/-- What is printed of a text with carriage returns is printed of no text without them. -/
theorem Recasing.print_ne (hecho : Console.LawfulEcho echo) {r r' : Recasing} (h : '\r' ∈ r.text)
    (h' : '\r' ∉ r'.text) (asJson : Bool) : r'.print echo asJson ≠ r.print echo asJson := by
  intro heq
  cases asJson with
  | true =>
      have htold : r.ToldBy (line r'.toJson) := by
        have hline : line r'.toJson = line r.toJson := heq
        rw [hline]
        exact toldBy_toJson r
      rw [htold.text_eq (toldBy_toJson r')] at h
      exact h' h
  | false =>
      have hprint : echo r'.text = echo r.text := heq
      rw [← hecho.mem_iff _ _ outsideSequences_return, ← hprint,
        hecho.mem_iff _ _ outsideSequences_return] at h
      exact h' h

theorem Recasing.print_ne_nil (hecho : Console.LawfulEcho echo) {r : Recasing}
    (h : '\r' ∈ r.text) (asJson : Bool) : r.print echo asJson ≠ [] := by
  cases asJson with
  | true => simp [print, line]
  | false => exact List.ne_nil_of_mem ((hecho.mem_iff _ _ outsideSequences_return).mpr h)

/-! ## The two inputs compared -/

/-- What comes of a request about a document in a file, and what of the same request about the same
bytes on standard input. -/
structure InputsAgree (echo : Text → Text) (t : Tree) (env : Environment) (content : Text)
    (how : RecaseRequest) (opened piped : Result) : Prop where
  /-- Neither touches the tree. -/
  untouched : opened.tree = t ∧ piped.tree = t
  /-- A document without carriage returns is the same on both. -/
  same : '\r' ∉ content → piped.status = opened.status ∧ piped.output = opened.output
  /-- A carriage return is always seen in what is printed. -/
  differs : how.checkOnly = false → opened.status = 0 →
    (piped.output = opened.output ↔ '\r' ∉ content)
  /-- A caret is refused that does not lie in what is read of standard input. -/
  refused : caretFits content.universalNewlines how.caret? = false →
    piped.status = 2 ∧ piped.output = []
  /-- Otherwise the requests end alike. -/
  status_eq : caretFits content.universalNewlines how.caret? = true → piped.status = opened.status
  /-- And what is printed of the recased document is printed with its line ends read. -/
  printed : caretFits content.universalNewlines how.caret? = true → how.checkOnly = false →
    ∀ s notices, ({} : Store).load t env = .ok (s, notices) → ∃ r r' : Recasing,
      opened = { tree := t, output := r.print echo how.asJson } ∧
      piped = { tree := t, output := r'.print echo how.asJson } ∧
      r.text = recase s content ∧ r.changed = decide (recase s content ≠ content) ∧
      r'.text = r.text.universalNewlines ∧ r'.changed = r.changed

/-- For every document, all settings, every caret in the document or none, and all other options
but to put it back, which standard input has no place for: how recasing it from a file and from
standard input compare. -/
theorem recase_inputs_agree (hecho : Console.LawfulEcho echo) {p : Path}
    (hfile : how.file ≠ ['-']) (hplace : how.inPlace = false)
    (hleads : env.expandUser (Path.ofText how.file) = .ok p)
    (hholds : t.look env.workingDirectory p = .ok (some (.file (Utf8.encode content))))
    (hfits : caretFits content how.caret? = true) :
    InputsAgree echo t env content how (runRecase echo t env stdin how)
      (runRecase echo t env content { how with file := ['-'] }) := by
  rw [runRecase_file hfile hplace hleads hholds hfits, runRecase_stdin how hplace]
  have hrefused := caretOutside_refused t content.universalNewlines how.caret?
  have hsame (hreturn : '\r' ∉ content) :
      caretFits content.universalNewlines how.caret? = true ∧
        (recaseText echo t env { how with file := ['-'] } content.universalNewlines).output =
          (recaseText echo t env how content).output := by
    rw [Text.universalNewlines_of_not_mem hreturn]
    exact ⟨hfits, output_recaseText hplace ['-']⟩
  refine
    { untouched := ⟨tree_recaseText hplace, ?_⟩
      same := fun hreturn => ?_
      differs := fun hcheck hstatus => ?_
      refused := fun hfits' => ?_
      status_eq := fun hfits' => ?_
      printed := fun hfits' hcheck s notices hload => ?_ }
  · split
    · exact tree_recaseText hplace
    · exact Result.tree_complain ..
  · obtain ⟨hfits', houtput⟩ := hsame hreturn
    rw [if_pos hfits']
    exact ⟨status_recaseText hplace ['-'], houtput⟩
  · obtain ⟨s, notices, hload⟩ := exists_load_of_status hstatus
    refine ⟨fun heq hreturn => ?_, fun hreturn => ?_⟩
    · -- the carriage return is printed of the file, and never of standard input
      have hmem : '\r' ∈ (recasing s content how.caret?).text := by
        rw [(recasing_told s content how.caret?).1]
        exact (return_mem_recase_iff s content).mpr hreturn
      rw [recaseText_printed hload how hplace hcheck] at heq
      split at heq
      · rw [recaseText_printed hload { how with file := ['-'] } hplace hcheck] at heq
        refine Recasing.print_ne hecho hmem ?_ how.asJson heq
        rw [(recasing_told s _ how.caret?).1, recase_universalNewlines]
        exact Text.return_not_mem_universalNewlines _
      · rw [hrefused.2] at heq
        exact Recasing.print_ne_nil hecho hmem how.asJson heq.symm
    · obtain ⟨hfits', houtput⟩ := hsame hreturn
      rw [if_pos hfits']
      exact houtput
  · rw [if_neg (by simp [hfits'])]
    exact hrefused
  · rw [if_pos hfits']
    exact status_recaseText hplace ['-']
  · rw [if_pos hfits', recaseText_printed hload how hplace hcheck,
      recaseText_printed hload { how with file := ['-'] } hplace hcheck]
    obtain ⟨htext, hchanged⟩ := recasing_told s content how.caret?
    obtain ⟨htext', hchanged'⟩ := recasing_told s content.universalNewlines how.caret?
    refine ⟨_, _, rfl, rfl, htext, hchanged, ?_, ?_⟩
    · rw [htext', htext, recase_universalNewlines]
    · rw [hchanged', hchanged]
      simp only [ne_eq, recase_universalNewlines_eq_self_iff]

/-- A document with line ends of two kinds, in a link and outside, told as JSON. -/
theorem recase_inputs_agree_two_line_ends :
    let home : Location := [['w']]
    let content := "a\r\n[[b\rc\\t]]".toList
    let t : Tree := ⟨[(home, .directory),
      (home ++ ["n.md".toList], .file (Utf8.encode content))]⟩
    let env : Environment := { workingDirectory := home, userHome := ['/'] }
    let how : RecaseRequest := { file := "n.md".toList, caret? := some 7, asJson := true }
    Console.LawfulEcho withoutSequences ∧ how.file ≠ ['-'] ∧ how.inPlace = false ∧
      env.expandUser (Path.ofText how.file) = .ok (Path.ofText how.file) ∧
      t.look env.workingDirectory (Path.ofText how.file) =
        .ok (some (.file (Utf8.encode content))) ∧
      caretFits content how.caret? = true ∧
      recase .standard content = "a\r\n[[b\rc|B\rC]]".toList ∧
      InputsAgree withoutSequences t env content how (runRecase withoutSequences t env [] how)
        (runRecase withoutSequences t env content { how with file := ['-'] }) := by
  intro home content t env how
  have hfile : how.file ≠ ['-'] := by decide
  have hholds : t.look env.workingDirectory (Path.ofText how.file) =
      .ok (some (.file (Utf8.encode content))) := by decide +kernel
  exact ⟨withoutSequences_lawful, hfile, rfl, rfl, hholds, by decide, by decide +kernel,
    recase_inputs_agree withoutSequences_lawful hfile rfl rfl hholds (by decide)⟩

/-- A document with a carriage return in it: on standard input it is not printed as from the file,
and a caret behind its last character is refused. -/
theorem exists_line_ends_lost :
    ∃ (t : Tree) (env : Environment) (file content : Text) (caret : Int),
      t.look env.workingDirectory (Path.ofText file) = .ok (some (.file (Utf8.encode content))) ∧
      caretFits content (some caret) = true ∧
      (runRecase withoutSequences t env [] { file := file }).status = 0 ∧
      (runRecase withoutSequences t env content {}).output ≠
        (runRecase withoutSequences t env [] { file := file }).output ∧
      (runRecase withoutSequences t env [] { file := file, caret? := some caret }).status = 0 ∧
      (runRecase withoutSequences t env content { caret? := some caret }).status = 2 := by
  let content : Text := "a\r\n[[b\\u]]".toList
  let t : Tree := ⟨[([['w']], .directory), ([['w'], "n.md".toList], .file (Utf8.encode content))]⟩
  let env : Environment := { workingDirectory := [['w']], userHome := ['/'] }
  let how : RecaseRequest := { caret? := some 10 }
  have hrefused :
      runRecase withoutSequences t env content how =
        caretOutside t content.universalNewlines (some 10) :=
    (runRecase_stdin how rfl).trans (if_neg (by decide))
  exact ⟨t, env, "n.md".toList, content, 10, by decide +kernel, by decide, by decide +kernel,
    by decide +kernel, by decide +kernel, hrefused ▸ (caretOutside_refused _ _ _).1⟩

end WikiCasing.CommandLine
