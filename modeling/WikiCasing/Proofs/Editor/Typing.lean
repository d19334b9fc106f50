import Mathlib.Data.List.Induction
import WikiCasing.Editor.Session
import WikiCasing.Proofs.Editor.Reaction
import WikiCasing.Proofs.Markup.Unfinished

/-!
# Typing an ordinary document

A controller recases the text of its editor after every character that is typed. For an ordinary
document this comes to the same as recasing it when it is finished, and not only in the end: after
each character the text is what recasing all that was typed so far gives, the caret stands at its
end, and the editor has been written to once for every link with a command that is finished
(`type_document`).

An editor on the way is `Attended`. That the next character keeps it so rests on `Keystroke`: what
the controller recases is not the text that was typed but what it has made of it before.
-/

namespace WikiCasing

namespace Editor

variable {e e' : Editor}

theorem type_append {p q : Text} (h : e.type p = (e', .ok ())) : e.type (p ++ q) = e'.type q := by
  induction p generalizing e with
  | nil =>
      cases h
      rfl
  | cons c p ih =>
      rw [List.cons_append, type_cons]
      rw [type_cons] at h
      split at h
      · exact ih h
      · cases h

/-- An empty editor that a controller listens to. -/
def attended (s : Settings) : Editor :=
  ((Session.start .announcing [] 0 s).perform (.attach 0)).1.editor

/-- One controller listens to the editor, which has been written to `n` times, and the caret stands
at the end of its text. -/
structure Attended (s : Settings) (t : Text) (n : Nat) (e : Editor) : Prop where
  alone : ∃ c, Alone e 0 c ∧ c.settings = s
  text_eq : e.text = t
  caret_eq : e.caret = t.length
  writes_eq : e.writes = n

variable {s : Settings} {t : Text} {n : Nat}

theorem attended_attended (s : Settings) : Attended s [] 0 (attended s) :=
  ⟨⟨{ settings := s }, ⟨rfl, rfl, rfl⟩, rfl⟩, rfl, rfl, rfl⟩

namespace Attended

theorem insert (h : Attended s t n e) (c : Char) : Attended s (t ++ [c]) n (e.insert [c]) := by
  have hbefore : e.before = t.length := by
    rw [before, h.caret_eq, h.text_eq, if_neg (by omega)]
    omega
  obtain ⟨c', halone, hsettings⟩ := h.alone
  refine ⟨⟨c', ⟨halone.listeners_eq, halone.controller_eq, halone.free⟩, hsettings⟩, ?_, ?_,
    h.writes_eq⟩
  · simp [Editor.insert, hbefore, h.text_eq]
  · simp [Editor.insert, h.caret_eq]

theorem notify (h : Attended s t n e)
    (hcaret : recase s t ≠ t → (plan s t t.length).caret = some (recase s t).length) :
    ∃ e', e.notify = (e', .ok ()) ∧
      Attended s (recase s t) (if recase s t = t then n else n + 1) e' := by
  obtain ⟨c, halone, rfl⟩ := h.alone
  refine ⟨e.recasedBy 0 c.settings, halone.notify_eq, ?_⟩
  constructor
  case alone => exact ⟨_, halone.recasedBy c.settings, rfl⟩
  case text_eq => rw [text_recasedBy, h.text_eq]
  case writes_eq => rw [writes_recasedBy, h.text_eq, h.writes_eq]
  case caret_eq =>
    rw [recasedBy, h.text_eq, h.caret_eq]
    split
    · rename_i hsame
      rw [hsame]
      exact h.caret_eq
    · rename_i hchanged
      have htext : (plan c.settings t t.length).text = recase c.settings t := by rw [plan_eq]
      rw [carriedOut, hcaret hchanged, htext]
      dsimp only
      omega

/-- A character typed behind what has been recased of the text before it. -/
theorem type_char {p : Text} {c : Char} (hkey : Keystroke s p c)
    (h : Attended s (recase s p) (recaseCounted s p).count e) :
    ∃ e', e.type [c] = (e', .ok ()) ∧
      Attended s (recase s (p ++ [c])) (recaseCounted s (p ++ [c])).count e' := by
  have hcaret : recase s (recase s p ++ [c]) ≠ recase s p ++ [c] →
      (plan s (recase s p ++ [c]) (recase s p ++ [c]).length).caret =
        some (recase s (recase s p ++ [c])).length := by
    intro hchanged
    exact hkey.caret_eq (fun hcount => hchanged (recase_eq_iff_count.mpr hcount))
  obtain ⟨e', hnotify, he'⟩ := (h.insert c).notify hcaret
  refine ⟨e', ?_, ?_⟩
  · rw [type_cons, hnotify]
    rfl
  · have hcount := hkey.count_le
    have htext : recase s (p ++ [c]) = recase s (recase s p ++ [c]) := by
      rw [recase, hkey.recase_eq]
    have hwrites : (recaseCounted s (p ++ [c])).count =
        if recase s (recase s p ++ [c]) = recase s p ++ [c] then (recaseCounted s p).count
        else (recaseCounted s p).count + 1 := by
      rw [hkey.recase_eq]
      split
      · rename_i hsame
        rw [recase_eq_iff_count.mp hsame]
        rfl
      · rename_i hchanged
        rw [recase_eq_iff_count] at hchanged
        dsimp only
        omega
    rw [htext, hwrites]
    exact he'

theorem type_prefix (s : Settings) (d : Document) {p : Text} (hp : p <+: d.text) :
    ∃ e, (attended s).type p = (e, .ok ()) ∧
      Attended s (recase s p) (recaseCounted s p).count e := by
  induction p using List.reverseRecOn with
  | nil => exact ⟨attended s, rfl, attended_attended s⟩
  | append_singleton p c ih =>
      obtain ⟨e, htype, he⟩ := ih ((List.prefix_append p [c]).trans hp)
      obtain ⟨e', hchar, he'⟩ := he.type_char (d.keystroke s hp)
      refine ⟨e', ?_, he'⟩
      rw [type_append htype]
      exact hchar

end Attended

/-- Whatever has been typed of an ordinary document into an empty editor with a controller, the
text is what recasing all of it gives, the caret stands at the end, and there was one write for
every link replaced; what is typed next goes on from there. In the end the text is the recased
document, and there was one write for every link with a command. -/
theorem type_document (s : Settings) (d : Document) :
    (∀ p q, p ++ q = d.text → ∃ e, (attended s).type p = (e, .ok ()) ∧
      (attended s).type d.text = e.type q ∧ e.text = recase s p ∧ e.caret = e.text.length ∧
      e.writes = (recaseCounted s p).count) ∧
    ∃ e, (attended s).type d.text = (e, .ok ()) ∧ e.text = recase s d.text ∧
      e.caret = e.text.length ∧ e.writes = d.commandCount := by
  constructor
  · intro p q hpq
    obtain ⟨e, htype, he⟩ := Attended.type_prefix s d ⟨q, hpq⟩
    refine ⟨e, htype, ?_, he.text_eq, ?_, he.writes_eq⟩
    · rw [← hpq, type_append htype]
    · rw [he.caret_eq, he.text_eq]
  · obtain ⟨e, htype, he⟩ := Attended.type_prefix s d (List.prefix_refl _)
    have hcount : (recaseCounted s d.text).count = d.commandCount :=
      congrArg Recased.count (Piece.recase_flatMap_spell s d.chain)
    refine ⟨e, htype, he.text_eq, ?_, ?_⟩
    · rw [he.caret_eq, he.text_eq]
    · rw [he.writes_eq, hcount]

/-- A link is replaced when its command is complete, and no sooner. -/
theorem type_document_sentence :
    let l : WikiLink :=
      ⟨"Link Name".toList, none, some (.behind, .lower), by simp, by simp, by simp, by simp⟩
    let d : Document :=
      ⟨[.plain "See ".toList (by decide) (by decide), .link l,
        .plain ".".toList (by decide) (by decide)],
        .cons_cons trivial (.cons_cons (by simp [Piece.Before]) (.singleton _))⟩
    let p := "See [[Link Name]]\\".toList
    let q := "l.".toList
    p ++ q = d.text ∧
      (∃ e, (attended .standard).type p = (e, .ok ()) ∧
        (attended .standard).type d.text = e.type q ∧ e.text = p ∧ e.caret = e.text.length ∧
        e.writes = 0) ∧
      ∃ e, (attended .standard).type d.text = (e, .ok ()) ∧
        e.text = "See [[Link Name|link name]].".toList ∧ e.caret = e.text.length ∧
        e.writes = 1 := by
  intro l d p q
  have hpq : p ++ q = d.text := by decide
  have hbefore : recaseCounted .standard p = ⟨p, 0⟩ := by decide +kernel
  have hafter : recase .standard d.text = "See [[Link Name|link name]].".toList := by
    decide +kernel
  have hone : d.commandCount = 1 := by decide
  obtain ⟨hpart, hwhole⟩ := type_document .standard d
  have hpart := hpart p q hpq
  rw [recase, hbefore] at hpart
  rw [hafter, hone] at hwhole
  exact ⟨hpq, hpart, hwhole⟩

end Editor

end WikiCasing
