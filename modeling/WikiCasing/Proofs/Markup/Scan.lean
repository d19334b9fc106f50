import Mathlib.Data.List.Basic
import WikiCasing.Markup.Plan
import WikiCasing.Markup.Recase
import WikiCasing.Proofs.Markup.Spelling

/-!
# Scanning for the links of one form

How the cut of a text into segments is composed: a stretch in which no link starts contributes
its characters (`segments_append_of_free`), a spelling contributes its link
(`segments_spell_append`), and the segments of a text spell the text (`spell_segments`).
Replacement and location are read off the segments, so each of these has its twin for `Form.recase`
and for `Form.occurrences`.
-/

namespace WikiCasing

/-- Two recased texts side by side. -/
instance : Append Recased where
  append a b := ⟨a.text ++ b.text, a.count + b.count⟩

@[simp] theorem Recased.text_append (a b : Recased) : (a ++ b).text = a.text ++ b.text := rfl

@[simp] theorem Recased.count_append (a b : Recased) : (a ++ b).count = a.count + b.count := rfl

@[simp] theorem Recased.mk_append_mk (t u : Text) (n m : Nat) :
    (⟨t, n⟩ ++ ⟨u, m⟩ : Recased) = ⟨t ++ u, n + m⟩ := rfl

@[simp] theorem Recased.nil_append (a : Recased) : ⟨[], 0⟩ ++ a = a := by
  cases a
  simp

theorem Recased.append_assoc (a b c : Recased) : a ++ b ++ c = a ++ (b ++ c) := by
  cases a; cases b; cases c
  simp [List.append_assoc, Nat.add_assoc]

namespace Form

variable {f : Form}

/-! ## Segments -/

theorem segmentsAfter_eq (f : Form) (n : Nat) (t : Text) :
    f.segmentsAfter n t = f.segments (t.drop n) := by
  induction t generalizing n with
  | nil => cases n <;> rfl
  | cons c t ih =>
      cases n with
      | zero => rfl
      | succ n => exact ih n

@[simp] theorem segments_nil : f.segments [] = [] := rfl

theorem segments_cons_of_none {c : Char} {t : Text} (h : f.read? (c :: t) = none) :
    f.segments (c :: t) = .plain c :: f.segments t := by
  rw [segments, segmentsAfter, h]
  rfl

theorem spell_length_pos (f : Form) (l : Link) : 0 < (f.spell l).length := by
  rw [spell_eq, List.length_append, List.length_cons]
  omega

theorem segments_spell_append {l : Link} (hl : f.Admits l) (q : Text) :
    f.segments (f.spell l ++ q) = .link l :: f.segments q := by
  obtain ⟨c, t, hspell⟩ : ∃ c t, f.spell l = c :: t := by
    cases h : f.spell l with
    | nil => exact absurd (spell_length_pos f l) (by simp [h])
    | cons c t => exact ⟨c, t, rfl⟩
  have hread : f.read? (c :: (t ++ q)) = some l := by
    rw [← List.cons_append, ← hspell]
    exact read?_spell hl q
  rw [hspell, List.cons_append, segments, segmentsAfter, hread]
  simp [segmentsAfter_eq, hspell]

/-- No link of the form starts in a stretch of text, given what follows it. -/
def Free (f : Form) (p q : Text) : Prop := ∀ u, u <:+ p → u ≠ [] → f.read? (u ++ q) = none

theorem Free.tail {c : Char} {p q : Text} (h : f.Free (c :: p) q) : f.Free p q :=
  fun u hu hne => h u (hu.trans (List.suffix_cons c p)) hne

theorem segments_append_of_free {p q : Text} (h : f.Free p q) :
    f.segments (p ++ q) = p.map .plain ++ f.segments q := by
  induction p with
  | nil => rfl
  | cons c p ih =>
      have hread : f.read? (c :: (p ++ q)) = none := h (c :: p) (List.suffix_refl _) (by simp)
      rw [List.cons_append, segments_cons_of_none hread, ih h.tail]
      rfl

theorem segments_of_free {p : Text} (h : f.Free p []) : f.segments p = p.map .plain := by
  have hseg := segments_append_of_free h
  rw [List.append_nil, segments_nil, List.append_nil] at hseg
  exact hseg

/-- The induction principle of a scan: a text is empty, or begins with a character at which no link
is read, or with the spelling of a link. -/
theorem scan_induction {motive : Text → Prop} (f : Form) (nil : motive [])
    (plain : ∀ c t, f.read? (c :: t) = none → motive t → motive (c :: t))
    (link : ∀ l t, f.Admits l → motive t → motive (f.spell l ++ t)) (t : Text) : motive t := by
  match ht : t with
  | [] => exact nil
  | c :: cs =>
      cases hread : f.read? (c :: cs) with
      | none => exact plain c cs hread (scan_induction f nil plain link cs)
      | some l =>
          obtain ⟨hl, rest, hrest⟩ := of_read? hread
          have hlen : rest.length < (c :: cs).length := by
            have hpos := spell_length_pos f l
            rw [← hrest, List.length_append]
            omega
          rw [← hrest]
          exact link l rest hl (scan_induction f nil plain link rest)
termination_by t.length
decreasing_by
  · simp
  · exact hlen

theorem spell_segments (f : Form) (t : Text) : (f.segments t).flatMap (Segment.spell f) = t := by
  induction t using scan_induction f with
  | nil => rfl
  | plain c t h ih => rw [segments_cons_of_none h, List.flatMap_cons, ih]; rfl
  | link l t h ih => rw [segments_spell_append h, List.flatMap_cons, ih]; rfl

theorem admits_of_mem_segments {t : Text} {l : Link} (h : .link l ∈ f.segments t) : f.Admits l := by
  induction t using scan_induction f with
  | nil => exact absurd h (by simp)
  | plain c t hread ih =>
      rw [segments_cons_of_none hread] at h
      exact ih ((List.mem_cons.mp h).resolve_left (by simp))
  | link l' t hl ih =>
      rw [segments_spell_append hl] at h
      rcases List.mem_cons.mp h with heq | hmem
      · cases heq
        exact hl
      · exact ih hmem

/-! ## Replacement -/

variable (s : Settings)

@[simp] theorem recase_nil (f : Form) : f.recase s [] = ⟨[], 0⟩ := rfl

theorem recase_cons_of_none {c : Char} {t : Text} (h : f.read? (c :: t) = none) :
    f.recase s (c :: t) = ⟨[c], 0⟩ ++ f.recase s t := by
  simp [recase, segments_cons_of_none h, Segment.render, Segment.isLink]

theorem recase_spell_append {l : Link} (hl : f.Admits l) (q : Text) :
    f.recase s (f.spell l ++ q) = ⟨l.render s, 1⟩ ++ f.recase s q := by
  have hcount : (Segment.link l :: f.segments q).countP Segment.isLink =
      1 + (f.segments q).countP Segment.isLink := by
    rw [List.countP_cons_of_pos rfl, Nat.add_comm]
  simp [recase, segments_spell_append hl, Segment.render, hcount]

theorem recase_append_of_free {p q : Text} (h : f.Free p q) :
    f.recase s (p ++ q) = ⟨p, 0⟩ ++ f.recase s q := by
  induction p with
  | nil => simp [recase]
  | cons c p ih =>
      have hread : f.read? (c :: (p ++ q)) = none := h (c :: p) (List.suffix_refl _) (by simp)
      rw [List.cons_append, recase_cons_of_none s hread, ih h.tail, ← Recased.append_assoc]
      rfl

/-- Replacement keeps the first character of a text, since a replaced link and its replacement both
begin with a bracket. -/
theorem head?_recase (f : Form) (t : Text) : (f.recase s t).text.head? = t.head? := by
  induction t using scan_induction f with
  | nil => rfl
  | plain c t h ih => rw [recase_cons_of_none s h]; rfl
  | link l t h ih =>
      have hrender : ∃ u, l.render s = '[' :: u := by
        unfold Link.render
        split
        · exact ⟨_, rfl⟩
        · dsimp only
          split
          · exact ⟨_, rfl⟩
          · exact ⟨_, rfl⟩
      obtain ⟨u, hu⟩ := hrender
      rw [recase_spell_append s h, spell_eq]
      simp [hu, inside]

end Form

/-! ## Location -/

/-- An occurrence in a text that stands behind `n` more characters. -/
def Occurrence.shift (n : Nat) (o : Occurrence) : Occurrence :=
  { o with start := n + o.start, stop := n + o.stop }

@[simp] theorem Occurrence.shift_form (n : Nat) (o : Occurrence) : (o.shift n).form = o.form := rfl

@[simp] theorem Occurrence.shift_start (n : Nat) (o : Occurrence) :
    (o.shift n).start = n + o.start := rfl

@[simp] theorem Occurrence.shift_stop (n : Nat) (o : Occurrence) :
    (o.shift n).stop = n + o.stop := rfl

@[simp] theorem Occurrence.shift_link (n : Nat) (o : Occurrence) : (o.shift n).link = o.link := rfl

namespace Form

variable {f : Form}

theorem locate_add (f : Form) (n m : Nat) (segs : List Segment) :
    f.locate (n + m) segs = (f.locate m segs).map (Occurrence.shift n) := by
  induction segs generalizing m with
  | nil => rfl
  | cons g segs ih =>
      cases g with
      | plain c => simp only [locate]; rw [Nat.add_assoc, ih]
      | link l =>
          simp only [locate, List.map_cons]
          rw [Nat.add_assoc, ih]
          rfl

theorem locate_eq_map_shift (f : Form) (n : Nat) (segs : List Segment) :
    f.locate n segs = (f.locate 0 segs).map (Occurrence.shift n) := locate_add f n 0 segs

theorem locate_append (f : Form) (n : Nat) (a b : List Segment) :
    f.locate n (a ++ b) =
      f.locate n a ++ f.locate (n + (a.flatMap (Segment.spell f)).length) b := by
  induction a generalizing n with
  | nil => rfl
  | cons g a ih =>
      cases g with
      | plain c =>
          have hlen : ((Segment.plain c :: a).flatMap (Segment.spell f)).length =
              1 + (a.flatMap (Segment.spell f)).length := by
            simp [Segment.spell, Nat.add_comm]
          rw [hlen, ← Nat.add_assoc]
          exact ih (n + 1)
      | link l =>
          rw [List.flatMap_cons, List.length_append, ← Nat.add_assoc]
          exact congrArg _ (ih _)

theorem occurrences_append {p q : Text} (h : f.segments (p ++ q) = f.segments p ++ f.segments q) :
    f.occurrences (p ++ q) =
      f.occurrences p ++ (f.occurrences q).map (Occurrence.shift p.length) := by
  rw [occurrences, h, locate_append, spell_segments, Nat.zero_add]
  exact congrArg _ (locate_eq_map_shift f p.length (f.segments q))

theorem occurrences_of_free {p : Text} (h : f.Free p []) : f.occurrences p = [] := by
  have hplain : ∀ (n : Nat) (p : Text), f.locate n (p.map .plain) = [] := by
    intro n p
    induction p generalizing n with
    | nil => rfl
    | cons c p ih => exact ih (n + 1)
  rw [occurrences, segments_of_free h, hplain]

theorem mem_locate {n : Nat} {segs : List Segment} {o : Occurrence} (h : o ∈ f.locate n segs) :
    o.form = f ∧ n ≤ o.start ∧ o.stop = o.start + (f.spell o.link).length ∧
      o.stop ≤ n + (segs.flatMap (Segment.spell f)).length ∧ .link o.link ∈ segs := by
  induction segs generalizing n with
  | nil => exact absurd h (by simp [locate])
  | cons g segs ih =>
      cases g with
      | plain c =>
          obtain ⟨hform, hstart, hlen, hstop, hmem⟩ := ih h
          simp only [List.flatMap_cons, List.length_append, Segment.spell, List.length_singleton]
          exact ⟨hform, by omega, hlen, by omega, List.mem_cons_of_mem _ hmem⟩
      | link l =>
          simp only [List.flatMap_cons, List.length_append, Segment.spell]
          rcases List.mem_cons.mp h with rfl | h
          · exact ⟨rfl, Nat.le_refl _, rfl, by simp, List.mem_cons_self⟩
          · obtain ⟨hform, hstart, hlen, hstop, hmem⟩ := ih h
            exact ⟨hform, by omega, hlen, by omega, List.mem_cons_of_mem _ hmem⟩

theorem exists_cut_of_mem_locate {n : Nat} {segs : List Segment} {o : Occurrence}
    (h : o ∈ f.locate n segs) :
    ∃ p q, segs.flatMap (Segment.spell f) = p ++ (f.spell o.link ++ q) ∧
      o.start = n + p.length := by
  induction segs generalizing n with
  | nil => exact absurd h (by simp [locate])
  | cons g segs ih =>
      cases g with
      | plain c =>
          obtain ⟨p, q, hcut, hstart⟩ := ih h
          refine ⟨c :: p, q, ?_, ?_⟩
          · rw [List.flatMap_cons, hcut]
            rfl
          · rw [hstart, List.length_cons]
            omega
      | link l =>
          rcases List.mem_cons.mp h with rfl | h
          · exact ⟨[], segs.flatMap (Segment.spell f), rfl, rfl⟩
          · obtain ⟨p, q, hcut, hstart⟩ := ih h
            refine ⟨f.spell l ++ p, q, ?_, ?_⟩
            · rw [List.flatMap_cons, hcut, List.append_assoc]
              rfl
            · rw [hstart, List.length_append, Nat.add_assoc]

theorem pairwise_locate (f : Form) (n : Nat) (segs : List Segment) :
    (f.locate n segs).Pairwise fun o p => o.stop ≤ p.start := by
  induction segs generalizing n with
  | nil => exact List.Pairwise.nil
  | cons g segs ih =>
      cases g with
      | plain c => exact ih (n + 1)
      | link l =>
          refine List.Pairwise.cons (fun p hp => ?_) (ih _)
          exact (mem_locate hp).2.1

theorem mem_occurrences {t : Text} {o : Occurrence} (h : o ∈ f.occurrences t) :
    o.form = f ∧ f.Admits o.link ∧ o.stop = o.start + (f.spell o.link).length ∧
      o.start < o.stop ∧ o.stop ≤ t.length := by
  obtain ⟨hform, -, hlen, hstop, hmem⟩ := mem_locate h
  have hpos := spell_length_pos f o.link
  rw [spell_segments] at hstop
  exact ⟨hform, admits_of_mem_segments hmem, hlen, by omega, by omega⟩

theorem exists_cut_of_mem_occurrences {t : Text} {o : Occurrence} (h : o ∈ f.occurrences t) :
    ∃ p q, t = p ++ (f.spell o.link ++ q) ∧ o.start = p.length := by
  obtain ⟨p, q, hcut, hstart⟩ := exists_cut_of_mem_locate h
  rw [spell_segments] at hcut
  exact ⟨p, q, hcut, by omega⟩

theorem pairwise_occurrences (f : Form) (t : Text) :
    (f.occurrences t).Pairwise fun o p => o.stop ≤ p.start := pairwise_locate f 0 _

/-! ## Forms without occurrences -/

theorem length_locate (f : Form) (n : Nat) (segs : List Segment) :
    (f.locate n segs).length = segs.countP Segment.isLink := by
  induction segs generalizing n with
  | nil => rfl
  | cons g segs ih =>
      cases g with
      | plain c => exact ih (n + 1)
      | link l => rw [locate, List.length_cons, ih, List.countP_cons_of_pos rfl]

theorem count_recase (s : Settings) (f : Form) (t : Text) :
    (f.recase s t).count = (f.occurrences t).length := by
  rw [occurrences, length_locate]
  rfl

theorem occurrences_cons_of_none {c : Char} {t : Text} (h : f.read? (c :: t) = none) :
    f.occurrences (c :: t) = (f.occurrences t).map (Occurrence.shift 1) := by
  rw [occurrences, segments_cons_of_none h]
  exact locate_eq_map_shift f 1 (f.segments t)

/-- Where a form has no occurrence, none of its links starts, not even one that a scan would pass
over. -/
theorem free_of_occurrences_nil {t : Text} (h : f.occurrences t = []) : f.Free t [] := by
  induction t using scan_induction f with
  | nil =>
      intro u hu hne
      exact absurd (List.suffix_nil.mp hu) hne
  | plain c t hread ih =>
      rw [occurrences_cons_of_none hread, List.map_eq_nil_iff] at h
      intro u hu hne
      rcases List.suffix_cons_iff.mp hu with rfl | hu
      · rw [List.append_nil]
        exact hread
      · exact ih h u hu hne
  | link l t hl ih =>
      rw [occurrences, segments_spell_append hl] at h
      exact absurd h (List.cons_ne_nil _ _)

theorem recase_of_occurrences_nil (s : Settings) {t : Text} (h : f.occurrences t = []) :
    f.recase s t = ⟨t, 0⟩ := by
  have hcount : (f.segments t).countP Segment.isLink = 0 := by
    rw [← length_locate f 0, ← occurrences, h]
    rfl
  have hplain : ∀ g ∈ f.segments t, Segment.render s g = Segment.spell f g := by
    intro g hg
    cases g with
    | plain c => rfl
    | link l => exact absurd rfl (List.countP_eq_zero.mp hcount _ hg)
  have htext : (f.segments t).flatMap (Segment.render s) = t :=
    (List.flatMap_congr hplain).trans (spell_segments f t)
  simp [recase, htext, hcount]

end Form

end WikiCasing
