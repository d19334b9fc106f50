import WikiCasing.Proofs.Markup.Change
import WikiCasing.Proofs.Note.FrontMatter
import WikiCasing.Proofs.Storage.Listing
import WikiCasing.Proofs.Text.Utf8

/-!
# A note recased in its file

What becomes of a file depends on its bytes alone: those that are a text are cut behind the front
matter, and the body is recased (`Entry.recased`); bytes that are no text stay, and so do
directories. The number of links replaced says whether anything changes at all
(`Entry.recased_eq_self_iff`), so it makes no difference that a file whose body stays is not
written. A recasing shows at the location of the note alone, given that a temporary file can stand
beside it, and a dry run counts the same links (`recaseNote_spec`). Whatever fails, the note holds
what it held or that with its body recased (`recaseNote_old_or_new`), and front matter and body meet
where they met before.
-/

namespace WikiCasing

/-! ## What recasing makes of a content -/

namespace Note

variable {s : Settings} {content : Text}

theorem content_recase_split_iff :
    ((split content).recase s).1.content = content ↔ ((split content).recase s).2 = 0 := by
  have hsplit := content_split content
  generalize split content = note at hsplit
  subst hsplit
  rw [recase_eq, ← recase_eq_iff_count, content, content, List.append_right_inj]

theorem revise?_eq (s : Settings) (content : Text) :
    revise? s content =
      if ((split content).recase s).2 = 0 then none
      else
        some (Utf8.encode ((split content).recase s).1.content,
          ((split content).recase s).2) := by
  unfold revise?
  simp only [recase_eq, recase_eq_iff_count]
  congr

end Note

namespace Entry

/-- What recasing leaves at a location. -/
def recased (s : Settings) : Entry → Entry
  | .file bytes =>
    match Utf8.decode bytes with
    | some content => .file (Utf8.encode ((Note.split content).recase s).1.content)
    | none => .file bytes
  | .directory => .directory

/-- The number of links that recasing replaces at a location. -/
def links (s : Settings) : Entry → Nat
  | .file bytes =>
    match Utf8.decode bytes with
    | some content => ((Note.split content).recase s).2
    | none => 0
  | .directory => 0

variable {s : Settings}

theorem recased_encode (s : Settings) (content : Text) :
    recased s (.file (Utf8.encode content)) =
      .file (Utf8.encode ((Note.split content).recase s).1.content) := by
  simp only [recased, Utf8.decode_encode]

theorem links_encode (s : Settings) (content : Text) :
    links s (.file (Utf8.encode content)) = ((Note.split content).recase s).2 := by
  simp only [links, Utf8.decode_encode]

theorem recased_of_decode_none {bytes : Bytes} (h : Utf8.decode bytes = none) :
    recased s (.file bytes) = .file bytes := by
  simp only [recased, h]

theorem isDirectory_recased (s : Settings) (e : Entry) :
    (e.recased s).isDirectory = e.isDirectory := by
  cases e with
  | directory => rfl
  | file bytes =>
      unfold recased
      dsimp only
      split <;> rfl

theorem map_isDirectory_recased (s : Settings) (found : Option Entry) :
    (found.map (recased s)).map isDirectory = found.map isDirectory := by
  rw [Option.map_map]
  congr 1
  funext e
  exact isDirectory_recased s e

theorem recased_eq_self_iff {e : Entry} : e.recased s = e ↔ e.links s = 0 := by
  cases e with
  | directory => simp [recased, links]
  | file bytes =>
      cases hdecode : Utf8.decode bytes with
      | none => simp [recased, links, hdecode]
      | some content =>
          obtain rfl := Utf8.decode_eq_some_iff.mp hdecode
          rw [recased_encode, links_encode, file.injEq, Utf8.encode_inj]
          exact Note.content_recase_split_iff

end Entry

/-! ## What recasing does to a tree -/

/-- The links that a recasing of a note replaced; none if it failed. -/
def linksOf : Except NoteError Nat → Nat
  | .ok n => n
  | .error _ => 0

namespace Tree

/-- A file at the location can be replaced: the place of its temporary file is free, and its name
not too long. -/
def Replaceable (t : Tree) (l : Location) : Prop :=
  ∀ bytes, t.get? l = some (.file bytes) → t.get? l.temporary = none ∧ l.temporary.fits = true

/-- The number of links that recasing replaces at a location of a tree. -/
def linksAt (s : Settings) (t : Tree) (l : Location) : Nat :=
  ((t.get? l).map (Entry.links s)).getD 0

variable {t t' : Tree} {s : Settings} {l : Location}

theorem SameShape.replaceable (h : t.SameShape t') (hl : t.Replaceable l) : t'.Replaceable l := by
  intro bytes hfile
  obtain ⟨old, hold⟩ := h.exists_file hfile
  obtain ⟨hfree, hfits⟩ := hl old hold
  exact ⟨(h.get?_eq_none_iff _).mpr hfree, hfits⟩

theorem map_recased_eq_self_iff :
    (t.get? l).map (Entry.recased s) = t.get? l ↔ t.linksAt s l = 0 := by
  unfold linksAt
  cases t.get? l with
  | none => simp
  | some e =>
      rw [Option.map_some, Option.some.injEq, Entry.recased_eq_self_iff]
      rfl

theorem map_recased_of_undecodable
    (h : ∀ bytes, t.get? l = some (.file bytes) → Utf8.decode bytes = none) :
    (t.get? l).map (Entry.recased s) = t.get? l := by
  cases hget : t.get? l with
  | none => rfl
  | some e =>
      cases e with
      | directory => rfl
      | file bytes => rw [Option.map_some, Entry.recased_of_decode_none (h bytes hget)]

theorem get?_ne_none_of_linksAt (h : t.linksAt s l ≠ 0) : t.get? l ≠ none := by
  intro hnone
  rw [linksAt, hnone] at h
  exact h rfl

theorem exists_content_of_linksAt (h : t.linksAt s l ≠ 0) :
    ∃ bytes content, t.get? l = some (.file bytes) ∧ Utf8.decode bytes = some content ∧
      t.linksAt s l = (recaseCounted s (Note.split content).body).count := by
  by_cases htext : ∀ bytes, t.get? l = some (.file bytes) → Utf8.decode bytes = none
  · exact absurd (map_recased_eq_self_iff.mp (map_recased_of_undecodable htext)) h
  · push Not at htext
    obtain ⟨bytes, hget, hdecode⟩ := htext
    obtain ⟨content, hcontent⟩ := Option.ne_none_iff_exists'.mp hdecode
    obtain rfl := Utf8.decode_eq_some_iff.mp hcontent
    refine ⟨_, content, hget, hcontent, ?_⟩
    rw [linksAt, hget, Option.map_some, Entry.links_encode]
    rfl

theorem linksAt_congr (h : t'.get? l = t.get? l) : t'.linksAt s l = t.linksAt s l := by
  rw [linksAt, h, linksAt]

theorem Distinct.recaseNote (h : t.Distinct) (s : Settings) (dryRun : Bool) (l : Location) :
    (t.recaseNote s dryRun l).1.Distinct := by
  unfold Tree.recaseNote
  split
  · exact h
  split
  · exact h
  split
  · exact h
  rename_i revised count hrevised
  split
  · exact h
  have hreplaced := h.replace l revised
  split <;> rename_i hreplace <;> rwa [hreplace] at hreplaced

theorem recaseNote_dry (t : Tree) (s : Settings) (l : Location) :
    (t.recaseNote s true l).1 = t := by
  unfold recaseNote
  split
  · rfl
  split
  · rfl
  split
  · rfl
  rw [if_pos rfl]

theorem recaseNote_of_no_links (h : t.linksAt s l = 0) (dryRun : Bool) :
    (t.recaseNote s dryRun l).1 = t ∧ linksOf (t.recaseNote s dryRun l).2 = 0 := by
  unfold recaseNote
  split
  · exact ⟨rfl, rfl⟩
  rename_i bytes hread
  split
  · exact ⟨rfl, rfl⟩
  rename_i content hdecode
  obtain rfl := Utf8.decode_eq_some_iff.mp hdecode
  rw [linksAt, read_eq_ok_iff.mp hread, Option.map_some, Entry.links_encode,
    Option.getD_some] at h
  rw [Note.revise?_eq, if_pos h]
  exact ⟨rfl, rfl⟩

/-- Recasing a note changes what is there and nothing else, and a dry run changes nothing. Either
counts the links that are replaced. -/
theorem recaseNote_spec {dryRun : Bool} (h : dryRun = false → t.Replaceable l) (s : Settings) :
    linksOf (t.recaseNote s dryRun l).2 = t.linksAt s l ∧
      ∀ m, (t.recaseNote s dryRun l).1.get? m =
        if dryRun = false ∧ m = l then (t.get? m).map (Entry.recased s) else t.get? m := by
  by_cases hzero : t.linksAt s l = 0
  · obtain ⟨htree, hlinks⟩ := recaseNote_of_no_links hzero dryRun
    rw [htree, hlinks, hzero]
    refine ⟨rfl, fun m => ?_⟩
    split
    · rename_i hm
      rw [hm.2, map_recased_eq_self_iff.mpr hzero]
    · rfl
  obtain ⟨bytes, content, hget, hdecode, hlinks⟩ := exists_content_of_linksAt hzero
  obtain rfl := Utf8.decode_eq_some_iff.mp hdecode
  change t.linksAt s l = ((Note.split content).recase s).2 at hlinks
  rw [recaseNote, read_eq_ok_iff.mpr hget]
  dsimp only
  rw [hdecode]
  dsimp only
  rw [Note.revise?_eq, ← hlinks, if_neg hzero]
  cases dryRun with
  | true =>
      dsimp only
      rw [if_pos rfl]
      exact ⟨rfl, fun m => (if_neg (by simp)).symm⟩
  | false =>
      obtain ⟨hfree, hfits⟩ := h rfl _ hget
      obtain ⟨t', hreplace, hafter⟩ := replace_eq
        (Utf8.encode ((Note.split content).recase s).1.content) hget hfree hfits
      dsimp only
      rw [if_neg Bool.false_ne_true, hreplace]
      refine ⟨rfl, fun m => ?_⟩
      rw [hafter m]
      by_cases hm : m = l
      · rw [if_pos hm, if_pos ⟨rfl, hm⟩, hm, hget, Option.map_some, Entry.recased_encode]
      · rw [if_neg hm, if_neg (fun hand => hm hand.2)]

/-- A recased note holds what it held or that with its body recased, whatever fails. -/
theorem recaseNote_old_or_new {content : Text}
    (h : t.get? l = some (.file (Utf8.encode content))) (s : Settings) (dryRun : Bool) :
    (t.recaseNote s dryRun l).1.get? l = some (.file (Utf8.encode content)) ∨
      (t.recaseNote s dryRun l).1.get? l =
        some (.file (Utf8.encode ((Note.split content).recase s).1.content)) := by
  rw [recaseNote, read_eq_ok_iff.mpr h]
  dsimp only
  rw [Utf8.decode_encode]
  dsimp only
  rw [Note.revise?_eq]
  by_cases hzero : ((Note.split content).recase s).2 = 0
  · rw [if_pos hzero]
    exact Or.inl h
  rw [if_neg hzero]
  dsimp only
  cases dryRun with
  | true => exact Or.inl h
  | false =>
      rw [if_neg Bool.false_ne_true]
      have hreplaced := replace_old_or_new
        (Utf8.encode ((Note.split content).recase s).1.content) h
      split <;> rename_i hreplace <;> rwa [hreplace] at hreplaced

end Tree

/-! ## Where the body begins -/

namespace Note

/-- Recasing does not move the boundary between front matter and body. It is where it was in the
recased content, a content without front matter gets none, and a file whose note is recased is cut
where it was cut before, whether it is written or not. -/
theorem split_header_append_recase (s : Settings) {content header body : Text}
    (h : split content = ⟨header, body⟩) :
    split (header ++ WikiCasing.recase s body) = ⟨header, WikiCasing.recase s body⟩ ∧
    (header = [] → split (WikiCasing.recase s content) = ⟨[], WikiCasing.recase s content⟩) ∧
    ∀ (t : Tree) (l : Location) (dryRun : Bool),
      t.get? l = some (.file (Utf8.encode content)) →
      ∃ after, (t.recaseNote s dryRun l).1.get? l = some (.file (Utf8.encode after)) ∧
        (split after = ⟨header, body⟩ ∨ split after = ⟨header, WikiCasing.recase s body⟩) := by
  have hrecase : ((split content).recase s).1 = ⟨header, WikiCasing.recase s body⟩ := by
    rw [h, recase_eq]
  have hsplit : split (header ++ WikiCasing.recase s body) =
      ⟨header, WikiCasing.recase s body⟩ := by
    have hkept := split_recase s content
    rwa [hrecase] at hkept
  refine ⟨hsplit, ?_, ?_⟩
  · rintro rfl
    have hbody : body = content := by
      have hcontent := content_split content
      rwa [h] at hcontent
    rwa [hbody] at hsplit
  · intro t l dryRun hfile
    rcases Tree.recaseNote_old_or_new hfile s dryRun with hold | hnew
    · exact ⟨content, hold, Or.inl h⟩
    · rw [hrecase] at hnew
      exact ⟨_, hnew, Or.inr hsplit⟩

/-- The rule behind the link could close front matter as well, but the first one does. -/
theorem split_header_append_recase_later_rule :
    split "---\nid: 1\n---\n\n[[a\\u]]\n---".toList =
        ⟨"---\nid: 1\n---\n\n".toList, "[[a\\u]]\n---".toList⟩ ∧
      split ("---\nid: 1\n---\n\n".toList ++ "[[a|A]]\n---".toList) =
        ⟨"---\nid: 1\n---\n\n".toList, "[[a|A]]\n---".toList⟩ := by
  have hsplit : split "---\nid: 1\n---\n\n[[a\\u]]\n---".toList =
      ⟨"---\nid: 1\n---\n\n".toList, "[[a\\u]]\n---".toList⟩ := by decide
  have hrecase : WikiCasing.recase .standard "[[a\\u]]\n---".toList =
      "[[a|A]]\n---".toList := by decide +kernel
  have hkept := (split_header_append_recase .standard hsplit).1
  rw [hrecase] at hkept
  exact ⟨hsplit, hkept⟩

end Note

end WikiCasing
