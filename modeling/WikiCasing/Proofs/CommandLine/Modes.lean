import WikiCasing.CommandLine.Run
import WikiCasing.Proofs.Console.Sequence
import WikiCasing.Proofs.Json.Written
import WikiCasing.Proofs.Markup.Change
import WikiCasing.Proofs.Storage.Paths
import WikiCasing.Proofs.Text.Utf8

/-!
# The ways to recase one document

A document in a file is recased to the same text however that is asked for (`recasing_eq`): with a
caret or without one, printed, told as JSON, or put back into the file. Only the last of these
touches the tree, and only if the text changes; a check says whether it would. What is printed plain
goes through the console, which leaves control sequences out (`Console.LawfulEcho`), so this is the
recased text exactly if no control sequence begins in it. A request is either refused, and then the
tree is as it was, or it is about a document that can be read (`refused_or_isAt`), and then one
equation says how it ends (`runRecase_eq`); if it ends in a complaint after all, the file is as it
was (`look_runRecase`).
-/

namespace WikiCasing.CommandLine

open Console (withoutSequences withoutSequences_lawful)

variable {echo : Text → Text} {t t' : Tree} {env : Environment} {stdin file : Text}
  {how : RecaseRequest}

/-! ## Messages -/

namespace Result

variable (t : Tree) (status : Nat) (message : Text)

theorem tree_complain : (complain t status message).tree = t := by
  unfold complain
  split <;> rfl

theorem output_complain : (complain t status message).output = [] := by
  unfold complain
  split <;> rfl

/-- A complaint ends with its status, or breaks down over its message. -/
theorem status_complain :
    (complain t status message).status = status ∨ (complain t status message).status = 1 := by
  unfold complain
  split
  · exact .inl rfl
  · exact .inr rfl

theorem tree_say : (say t status message).tree = t := by
  unfold say
  split <;> rfl

theorem status_say :
    (say t status message).status = status ∨ (say t status message).status = 1 := by
  unfold say
  split
  · exact .inl rfl
  · exact .inr rfl

end Result

namespace SourceError

theorem tree_result (e : SourceError) (t : Tree) : (e.result t).tree = t := by
  cases e with
  | message text => exact Result.tree_complain t 2 text
  | breakdown reason => rfl

theorem status_result_ne (e : SourceError) (t : Tree) : (e.result t).status ≠ 0 := by
  cases e with
  | message text =>
      have hstatus := Result.status_complain t 2 text
      rw [result]
      omega
  | breakdown reason => simp [result, Result.broken]

end SourceError

/-! ## Documents in files -/

/-- A document that has been read from a file, and the settings it is recased under. -/
structure Source where
  path : Path
  content : Text
  settings : Settings

namespace Source

/-- The text of the document once it is recased. -/
def recased (d : Source) : Text := recase d.settings d.content

/-- The document recased, and where a caret in it goes. -/
def recasing (d : Source) (caret? : Option Int) : Recasing where
  text := d.recased
  changed := d.recased ≠ d.content
  caret := caret?.bind fun caret => (plan d.settings d.content caret).caret

/-- A file name, which is no hyphen, leads to the document, and its settings can be loaded. -/
structure IsAt (d : Source) (t : Tree) (env : Environment) (file : Text) : Prop where
  named : file ≠ ['-']
  leads : env.expandUser (Path.ofText file) = .ok d.path
  holds : t.look env.workingDirectory d.path = .ok (some (.file (Utf8.encode d.content)))
  loads : ∃ notices, ({} : Store).load t env = .ok (d.settings, notices)

end Source

variable {d : Source}

/-- With a caret or without one, the text is recased alike and changes alike. -/
theorem recasing_eq (d : Source) (caret? : Option Int) :
    recasing d.settings d.content caret? = d.recasing caret? := by
  cases caret? with
  | none => rfl
  | some caret =>
      rw [recasing, Source.recasing, plan_eq, Option.bind_some, plan_eq]
      rfl

theorem readSource_eq_ok_iff (hfile : file ≠ ['-']) {content : Text} :
    readSource t env stdin file = .ok content ↔
      ∃ p, env.expandUser (Path.ofText file) = .ok p ∧
        t.look env.workingDirectory p = .ok (some (.file (Utf8.encode content))) := by
  rw [readSource, if_neg hfile]
  cases env.expandUser (Path.ofText file) with
  | error e => simp
  | ok p =>
      simp only [Except.ok.injEq, exists_eq_left']
      split <;> rename_i hlook <;> rw [hlook]
      · simp
      · simp
      · simp
      · -- bytes that are a text are the bytes of that text and of no other
        rename_i bytes
        simp only [Except.ok.injEq, Option.some.injEq, Entry.file.injEq]
        rw [← Utf8.decode_eq_some_iff]
        split <;> rename_i hdecode <;> simp [hdecode]

/-- A request about a file is refused, and then the tree is as it was, or the file holds a document
in which the caret lies. -/
theorem refused_or_isAt (echo : Text → Text) (t : Tree) (env : Environment) (stdin : Text)
    {how : RecaseRequest} (hfile : how.file ≠ ['-']) :
    (runRecase echo t env stdin how).tree = t ∧ (runRecase echo t env stdin how).status ≠ 0 ∨
      ∃ d : Source, d.IsAt t env how.file ∧ caretFits d.content how.caret? = true := by
  have hcomplain (message : Text) : (Result.complain t 2 message).tree = t ∧
      (Result.complain t 2 message).status ≠ 0 := by
    have hstatus := Result.status_complain t 2 message
    exact ⟨Result.tree_complain .., by omega⟩
  unfold runRecase
  rw [if_neg (by simp [hfile])]
  split
  · rename_i e hread
    exact .inl ⟨e.tree_result t, e.status_result_ne t⟩
  · rename_i content hread
    obtain ⟨p, hleads, hholds⟩ := (readSource_eq_ok_iff hfile).mp hread
    split
    · rename_i hfits
      unfold recaseText
      split
      · exact .inl (hcomplain _)
      · rename_i s notices hload
        exact .inr ⟨⟨p, content, s⟩, ⟨hfile, hleads, hholds, notices, hload⟩, hfits⟩
    · exact .inl (hcomplain _)

theorem runRecase_eq (h : d.IsAt t env how.file) (hfits : caretFits d.content how.caret? = true) :
    runRecase echo t env stdin how =
      if how.checkOnly then
        if d.recased ≠ d.content then
          .complain t 1 ("[yellow]Would rewrite:[/yellow] ".toList ++ Console.escape how.file)
        else { tree := t }
      else if how.inPlace then recaseInPlace t env how (d.recasing how.caret?)
      else { tree := t, output := (d.recasing how.caret?).print echo how.asJson } := by
  obtain ⟨notices, hload⟩ := h.loads
  have hread : readSource t env stdin how.file = .ok d.content :=
    (readSource_eq_ok_iff h.named).mpr ⟨d.path, h.leads, h.holds⟩
  rw [runRecase, if_neg (by simp [h.named]), hread]
  dsimp only
  rw [if_pos hfits, recaseText, hload]
  dsimp only
  rw [recasing_eq]
  simp only [Source.recasing, decide_eq_true_iff]

/-! ## A document put back -/

theorem tree_recaseInPlace (t : Tree) (env : Environment) (how : RecaseRequest) (r : Recasing) :
    (recaseInPlace t env how r).tree = (putBack t env how.file r).1 := by
  unfold recaseInPlace
  split <;> rename_i hput
  · rw [hput]
    exact SourceError.tree_result ..
  · rw [hput]
    split
    · rfl
    · exact Result.tree_say ..

theorem recaseInPlace_of_putBack {r : Recasing} (h : putBack t env how.file r = (t', .ok ())) :
    (recaseInPlace t env how r).status ≠ 2 ∧
      (how.asJson = true → (recaseInPlace t env how r).output = line r.toJson) := by
  unfold recaseInPlace
  rw [h]
  dsimp only
  split
  · exact ⟨by simp, fun _ => rfl⟩
  · rename_i hplain
    refine ⟨?_, fun hjson => absurd hjson hplain⟩
    have hstatus := Result.status_say t' 0
      ((if r.changed then "[green][OK] Rewrote[/green] " else "[dim]Unchanged:[/dim] ").toList ++
        Console.escape how.file)
    omega

theorem putBack_of_unchanged {r : Recasing} (h : r.changed = false) :
    putBack t env file r = (t, .ok ()) := by
  rw [putBack, if_neg (by simp [h])]

theorem putBack_of_replaceAt {r : Recasing} {p : Path}
    (hleads : env.expandUser (Path.ofText file) = .ok p) (hchanged : r.changed = true)
    (h : t.replaceAt env.workingDirectory p (Utf8.encode r.text) = (t', .ok ())) :
    putBack t env file r = (t', .ok ()) := by
  rw [putBack, if_pos hchanged, hleads]
  dsimp only
  rw [h]

theorem replaceAt_of_putBack_error {r : Recasing} {p : Path} {e : SourceError}
    (hleads : env.expandUser (Path.ofText file) = .ok p)
    (h : putBack t env file r = (t', .error e)) :
    ∃ f, t.replaceAt env.workingDirectory p (Utf8.encode r.text) = (t', .error f) := by
  rw [putBack] at h
  split at h
  · rw [hleads] at h
    dsimp only at h
    split at h
    · simp at h
    · rename_i f hreplace
      obtain ⟨rfl, -⟩ := Prod.mk.injEq .. ▸ h
      exact ⟨f, hreplace⟩
  · simp at h

/-- A file that is asked for is as it was if the request ends in a complaint. -/
theorem look_runRecase (hwf : t.WellFormed) (hhome : t.isDirectory env.workingDirectory = true)
    (hfile : how.file ≠ ['-']) (hstatus : (runRecase echo t env stdin how).status = 2) {p : Path}
    (hleads : env.expandUser (Path.ofText how.file) = .ok p) :
    (runRecase echo t env stdin how).tree.look env.workingDirectory p =
      t.look env.workingDirectory p := by
  rcases refused_or_isAt echo t env stdin hfile with ⟨htree, -⟩ | ⟨d, h, hfits⟩
  · rw [htree]
  obtain rfl : d.path = p := Except.ok.inj (h.leads.symm.trans hleads)
  rw [runRecase_eq h hfits] at hstatus ⊢
  split
  · split
    · rw [Result.tree_complain]
    · rfl
  split
  · -- the only complaint about a document that could be read is that it cannot be put back
    rename_i hcheck hplace
    rw [if_neg hcheck, if_pos hplace] at hstatus
    rw [tree_recaseInPlace]
    cases hput : putBack t env how.file (d.recasing how.caret?) with
    | mk t' done =>
        cases done with
        | ok => exact absurd hstatus (recaseInPlace_of_putBack hput).1
        | error e =>
            obtain ⟨f, hreplace⟩ := replaceAt_of_putBack_error h.leads hput
            rw [h.holds]
            exact hwf.look_of_replaceAt_error hhome h.holds hreplace
  · rfl

/-! ## The ways compared -/

/-- What a line of JSON says of a recased document: the text that is read in it, the caret, and
whether the text changed. -/
def Recasing.ToldBy (r : Recasing) (told : Text) : Prop :=
  (Json.after? "\x7b\"text\": \"".toList told).bind Json.readText? =
    some (r.text, ", \"caret\": ".toList ++ (r.caret.map Text.ofNat).getD "null".toList ++
      ", \"changed\": ".toList ++ Json.writeBool r.changed ++ "\x7d\n".toList)

instance (r : Recasing) (told : Text) : Decidable (r.ToldBy told) :=
  inferInstanceAs (Decidable (_ = _))

theorem toldBy_toJson (r : Recasing) : r.ToldBy (line r.toJson) := by
  have hline : line r.toJson = "\x7b\"text\": \"".toList ++
      (r.text.flatMap Json.writeChar ++ '"' :: (", \"caret\": ".toList ++
        (r.caret.map Text.ofNat).getD "null".toList ++ ", \"changed\": ".toList ++
          Json.writeBool r.changed ++ "\x7d\n".toList)) := by
    unfold line Recasing.toJson Json.writeText
    cases r.caret <;> simp
  rw [Recasing.ToldBy, hline, Json.after?_append, Option.bind_some, Json.readText?_writeText]

/-- A character that is written as two escapes is read as one. -/
example : Recasing.ToldBy ⟨[Char.ofNat 0x1f600], true, some 1⟩
    (line "\x7b\"text\": \"\\ud83d\\ude00\", \"caret\": 1, \"changed\": true\x7d".toList) := by
  decide +kernel

theorem Recasing.ToldBy.text_eq {r r' : Recasing} {told : Text} (h : r.ToldBy told)
    (h' : r'.ToldBy told) : r.text = r'.text := by
  unfold Recasing.ToldBy at h h'
  rw [h, Option.some.injEq, Prod.mk.injEq] at h'
  exact h'.1

/-- The ways to recase a document agree, with some caret in it or without one. -/
structure Source.ModesAgree (echo : Text → Text) (d : Source) (t : Tree) (env : Environment)
    (stdin file : Text) (caret? : Option Int) : Prop where
  /-- Printed plain, it is what the console writes of the recased text. -/
  printed : runRecase echo t env stdin { file := file, caret? := caret? } =
    { tree := t, output := echo d.recased }
  /-- Printed as JSON, it is told as it is. -/
  told : ∃ output, (d.recasing caret?).ToldBy output ∧
    runRecase echo t env stdin { file := file, caret? := caret?, asJson := true } =
      { tree := t, output := output }
  /-- In place, nothing is touched if the text does not change. -/
  untouched (asJson : Bool) : d.recased = d.content →
    let r := runRecase echo t env stdin
      { file := file, caret? := caret?, inPlace := true, asJson := asJson }
    r.tree = t ∧ r.status ≠ 2 ∧ (asJson = true → (d.recasing caret?).ToldBy r.output)
  /-- In place, the file holds the recased text if the temporary file could be written, and nothing
  else is touched, but that no temporary file is left. -/
  replaced (asJson : Bool) (t₁ : Tree) : d.recased ≠ d.content →
    (t.onPath env.workingDirectory d.path.temporary fun l =>
      t.write l (Utf8.encode d.recased)) = .ok t₁ →
    let r := runRecase echo t env stdin
      { file := file, caret? := caret?, inPlace := true, asJson := asJson }
    r.status ≠ 2 ∧ (asJson = true → (d.recasing caret?).ToldBy r.output) ∧
      ∃ l, t.locate env.workingDirectory d.path = .ok l ∧
        r.tree.locate env.workingDirectory d.path = .ok l ∧ ∀ m, r.tree.get? m =
          if m = l then some (.file (Utf8.encode d.recased))
          else if m = l.temporary then none else t.get? m
  /-- A check touches nothing and prints nothing, and finds whether a link occurs. -/
  checked (inPlace asJson : Bool) :
    let r := runRecase echo t env stdin
      { file := file, caret? := caret?, inPlace := inPlace, asJson := asJson, checkOnly := true }
    r.tree = t ∧ r.output = [] ∧
      (r.status = 1 ↔ ∃ f : Form, f.occurrences d.content ≠ []) ∧
      (r.status = 0 ↔ ∀ f : Form, f.occurrences d.content = [])

theorem runRecase_check (h : d.IsAt t env how.file) (hfits : caretFits d.content how.caret? = true)
    (hcheck : how.checkOnly = true) :
    (runRecase echo t env stdin how).tree = t ∧ (runRecase echo t env stdin how).output = [] ∧
      ((runRecase echo t env stdin how).status = 1 ↔ ∃ f : Form, f.occurrences d.content ≠ []) ∧
      ((runRecase echo t env stdin how).status = 0 ↔ ∀ f : Form, f.occurrences d.content = []) := by
  rw [runRecase_eq h hfits, if_pos hcheck, ← not_settled_iff]
  have hsettled : d.recased = d.content ↔ ∀ f : Form, f.occurrences d.content = [] :=
    recase_eq_iff_settled
  split
  · rename_i hchanged
    have hstatus := Result.status_complain t 1
      ("[yellow]Would rewrite:[/yellow] ".toList ++ Console.escape how.file)
    refine ⟨Result.tree_complain .., Result.output_complain .., ?_, ?_⟩
    · exact iff_of_true (by omega) (mt hsettled.mpr hchanged)
    · exact iff_of_false (by omega) (mt hsettled.mpr hchanged)
  · rename_i hsame
    rw [not_not] at hsame
    refine ⟨rfl, rfl, ?_, ?_⟩
    · exact iff_of_false (by simp) (not_not.mpr (hsettled.mp hsame))
    · exact iff_of_true rfl (hsettled.mp hsame)

theorem runRecase_inPlace (h : d.IsAt t env how.file)
    (hfits : caretFits d.content how.caret? = true) (hcheck : how.checkOnly = false)
    (hplace : how.inPlace = true)
    (hput : putBack t env how.file (d.recasing how.caret?) = (t', .ok ())) :
    (runRecase echo t env stdin how).tree = t' ∧ (runRecase echo t env stdin how).status ≠ 2 ∧
      (how.asJson = true →
        (d.recasing how.caret?).ToldBy (runRecase echo t env stdin how).output) := by
  obtain ⟨hstatus, htold⟩ := recaseInPlace_of_putBack hput
  rw [runRecase_eq h hfits, hcheck, if_neg (by simp), if_pos hplace]
  refine ⟨?_, hstatus, fun hjson => ?_⟩
  · rw [tree_recaseInPlace, hput]
  · rw [htold hjson]
    exact toldBy_toJson _

theorem modesAgree (hwf : t.WellFormed) (hhome : t.isDirectory env.workingDirectory = true)
    (h : d.IsAt t env file) {caret? : Option Int} (hfits : caretFits d.content caret? = true) :
    d.ModesAgree echo t env stdin file caret? where
  printed := by
    rw [runRecase_eq h hfits]
    rfl
  told := by
    refine ⟨line (d.recasing caret?).toJson, toldBy_toJson _, ?_⟩
    rw [runRecase_eq h hfits]
    rfl
  untouched asJson hsame :=
    runRecase_inPlace h hfits rfl rfl (putBack_of_unchanged (decide_eq_false (not_not.mpr hsame)))
  replaced asJson t₁ hchanged hwrite := by
    obtain ⟨t', l, hreplace, hlocate, hlocate', hget⟩ :=
      hwf.exists_replaceAt_of_look hhome h.holds hwrite
    have hput : putBack t env file (d.recasing caret?) = (t', .ok ()) :=
      putBack_of_replaceAt h.leads (decide_eq_true hchanged) hreplace
    intro r
    obtain ⟨htree, hstatus, htold⟩ : r.tree = t' ∧ _ := runRecase_inPlace h hfits rfl rfl hput
    rw [htree]
    exact ⟨hstatus, htold, l, hlocate, hlocate', hget⟩
  checked inPlace asJson := runRecase_check h hfits rfl

/-- A control sequence is lost where the document is printed plain, and kept everywhere else: what
is told as JSON and what is put back is another text. -/
theorem Source.ModesAgree.printed_ne {caret? : Option Int}
    (h : d.ModesAgree echo t env stdin file caret?)
    (hlost : echo d.recased ≠ d.recased) :
    let printed := (runRecase echo t env stdin { file := file, caret? := caret? }).output
    (∀ changed caret, ¬ Recasing.ToldBy ⟨printed, changed, caret⟩
        (runRecase echo t env stdin { file := file, caret? := caret?, asJson := true }).output) ∧
      ∀ t₁, d.recased ≠ d.content →
        (t.onPath env.workingDirectory d.path.temporary fun l =>
          t.write l (Utf8.encode d.recased)) = .ok t₁ →
        (runRecase echo t env stdin { file := file, caret? := caret?, inPlace := true }).tree.look
          env.workingDirectory d.path ≠ .ok (some (.file (Utf8.encode printed))) := by
  intro printed
  have hprinted : printed = echo d.recased := congrArg Result.output h.printed
  refine ⟨fun changed caret htold => hlost ?_, fun t₁ hchanged hwrite hlook => hlost ?_⟩
  · obtain ⟨output, htold', hrun⟩ := h.told
    rw [hrun] at htold
    rw [← hprinted]
    exact htold.text_eq htold'
  · obtain ⟨-, -, l, -, hlocate, hget⟩ := h.replaced false t₁ hchanged hwrite
    obtain ⟨l', hlocate', hfile⟩ := Tree.look_eq_some_iff.mp hlook
    obtain rfl : l = l' := Except.ok.inj (hlocate.symm.trans hlocate')
    rw [hget, if_pos rfl, Option.some.injEq, Entry.file.injEq] at hfile
    rw [← hprinted]
    exact Utf8.encode_injective hfile.symm

/-- Whatever is in a file and whatever the settings, if the document can be printed recased then
the ways to recase it agree on one text, with any caret in the document or none; what is printed
plain is this text exactly if no control sequence begins in it. Whoever asks for a file and gets a
complaint finds it as it was. -/
theorem recase_modes_agree (hecho : Console.LawfulEcho echo) (hfile : file ≠ ['-'])
    (hwf : t.WellFormed) (hhome : t.isDirectory env.workingDirectory = true) :
    (∀ caret? : Option Int,
      (runRecase echo t env stdin { file := file, caret? := caret? }).status = 0 →
        ∃ d : Source, d.IsAt t env file ∧ caretFits d.content caret? = true ∧
          (echo d.recased = d.recased ↔
            ∀ u, u <:+ d.recased → Console.sequence? u = none) ∧
          ∀ other? : Option Int, caretFits d.content other? = true →
            d.ModesAgree echo t env stdin file other?) ∧
      ∀ how : RecaseRequest, how.file = file → (runRecase echo t env stdin how).status = 2 →
        ∀ p, env.expandUser (Path.ofText file) = .ok p →
          (runRecase echo t env stdin how).tree.look env.workingDirectory p =
            t.look env.workingDirectory p := by
  refine ⟨fun caret? hstatus => ?_, fun how hhow hstatus p hleads => ?_⟩
  · let how : RecaseRequest := { file := file, caret? := caret? }
    have hhow : how.file ≠ ['-'] := hfile
    rcases refused_or_isAt echo t env stdin hhow with ⟨-, hrefused⟩ | ⟨d, h, hfits⟩
    · exact absurd hstatus hrefused
    · exact ⟨d, h, hfits, hecho.eq_self_iff,
        fun _ hother => modesAgree hwf hhome h hother⟩
  · subst hhow
    exact look_runRecase hwf hhome hfile hstatus hleads

/-- A note with a line ending of its own, and nothing where its temporary file goes. -/
theorem recase_modes_agree_one_note :
    let home : Location := [['w']]
    let t : Tree := ⟨[(home, .directory),
      (home ++ ["n.md".toList], .file (Utf8.encode "[[a\\u]]\r\n".toList))]⟩
    let env : Environment := { workingDirectory := home, userHome := ['/'] }
    let file := "n.md".toList
    Console.LawfulEcho withoutSequences ∧ file ≠ ['-'] ∧ t.WellFormed ∧
      t.isDirectory env.workingDirectory = true ∧
      (runRecase withoutSequences t env [] { file := file }).status = 0 ∧
      ∃ d : Source, d.IsAt t env file ∧ d.ModesAgree withoutSequences t env [] file none := by
  intro home t env file
  have hfile : file ≠ ['-'] := by decide
  have hwf : t.WellFormed := .of_entries (by unfold Tree.Distinct; decide) (by decide)
  have hhome : t.isDirectory env.workingDirectory = true := by decide
  have hstatus : (runRecase withoutSequences t env [] { file := file }).status = 0 := by
    decide +kernel
  obtain ⟨hagree, -⟩ := recase_modes_agree withoutSequences_lawful hfile hwf hhome
  obtain ⟨d, h, -, -, hmodes⟩ := hagree none hstatus
  exact ⟨withoutSequences_lawful, hfile, hwf, hhome, hstatus, d, h, hmodes none rfl⟩

/-- A document with a control sequence in it: the text that is printed is neither the one that is
told nor the one that is put back. -/
theorem exists_control_sequence_lost :
    ∃ (t : Tree) (env : Environment) (file : Text),
      let printed := runRecase withoutSequences t env [] { file := file }
      printed.status = 0 ∧
        (∀ changed caret, ¬ Recasing.ToldBy ⟨printed.output, changed, caret⟩
          (runRecase withoutSequences t env [] { file := file, asJson := true }).output) ∧
        (runRecase withoutSequences t env [] { file := file, inPlace := true }).tree.look
            env.workingDirectory (Path.ofText file) ≠
          .ok (some (.file (Utf8.encode printed.output))) := by
  let content := "\x1b[m[[a\\u]]".toList
  let t : Tree := ⟨[([['w']], .directory), ([['w'], "n.md".toList], .file (Utf8.encode content))]⟩
  let env : Environment := { workingDirectory := [['w']], userHome := ['/'] }
  let d : Source := ⟨Path.ofText "n.md".toList, content, .standard⟩
  have hwf : t.WellFormed := .of_entries (by unfold Tree.Distinct; decide) (by decide)
  have h : d.IsAt t env "n.md".toList := ⟨by decide, rfl, by decide +kernel, [], rfl⟩
  have hmodes : d.ModesAgree withoutSequences t env [] "n.md".toList none :=
    modesAgree hwf (by decide) h rfl
  obtain ⟨htold, hplaced⟩ := hmodes.printed_ne (by decide +kernel)
  exact ⟨t, env, "n.md".toList, congrArg Result.status hmodes.printed, htold,
    hplaced _ (by decide +kernel) rfl⟩

end WikiCasing.CommandLine
