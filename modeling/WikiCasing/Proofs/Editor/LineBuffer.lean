import WikiCasing.Editor.Buffer
import WikiCasing.Proofs.Editor.Notification

/-!
# Controllers on a line buffer

On a lawful line buffer a controller does what it does on an editor of either kind, since it never
writes the text that is there already, which is where they differ. The laws say what becomes of a
line within which the cursor stands, so the hosts can only be compared together with the fact that
the caret never leaves the text (`Agree`).

What matters about a host is that it does what an editor does while the caret stands in the text
(`Host.Faithful`). A lawful buffer does (`Buffer.Lawful.faithful`), and on any host that does, a
controller reacts as it does on an editor of either kind (`Host.Faithful.react_agree`).
-/

namespace WikiCasing

namespace Editor

variable {e : Editor} {i : Nat} {c : Controller}

/-! ## Carets within the text -/

/-- The caret stands within the text or at one of its ends. -/
def InText (e : Editor) : Prop := 0 ≤ e.caret ∧ e.caret ≤ e.text.length

theorem InText.before_eq (h : e.InText) : e.before = e.caret.toNat := by
  obtain ⟨hlow, hhigh⟩ := h
  rw [before, if_neg (by omega)]
  omega

theorem InText.cursor_le (h : e.InText) : e.line.cursor ≤ e.line.text.length := by
  obtain ⟨hlow, hhigh⟩ := h
  show e.caret.toNat ≤ e.text.length
  omega

theorem InText.insert (h : e.InText) (piece : Text) : (e.insert piece).InText := by
  obtain ⟨hlow, hhigh⟩ := h
  have hlen : (e.insert piece).text.length = e.text.length + piece.length := by
    simp only [Editor.insert, List.length_append, List.length_take, List.length_drop]
    omega
  have hcaret : (e.insert piece).caret = e.caret + piece.length := rfl
  refine ⟨?_, ?_⟩ <;> omega

theorem InText.replaced (h : e.InText) (text : Text) : (e.replaced text).InText := by
  obtain ⟨hlow, hhigh⟩ := h
  refine ⟨?_, ?_⟩ <;> simp only [Editor.replaced] <;> omega

theorem InText.placeCaret (e : Editor) (offset : Int) : (e.placeCaret offset).InText := by
  refine ⟨?_, ?_⟩ <;> simp only [Editor.placeCaret] <;> omega

theorem InText.beginWrite (h : e.InText) (i : Nat) (p : Plan) : (e.beginWrite i p).InText :=
  InText.replaced (e := (e.noted i p).setGuard i ⟨true⟩) h p.text

theorem InText.endWrite (h : e.InText) (i : Nat) (p : Plan) : (e.endWrite i p).InText := by
  unfold Editor.endWrite
  split
  · exact InText.placeCaret e _
  · exact h

/-! ## Editors of another kind -/

/-- The editor, but of some kind. -/
def withKind (e : Editor) (k : EditorKind) : Editor := { e with kind := k }

theorem Heeds.withKind (h : e.Heeds i c) (k : EditorKind) : (e.withKind k).Heeds i c :=
  ⟨h.controller_eq, h.free⟩

theorem endWrite_withKind (e : Editor) (k : EditorKind) (i : Nat) (p : Plan) :
    (e.withKind k).endWrite i p = (e.endWrite i p).withKind k := by
  unfold endWrite
  split <;> rfl

/-- The outcome on one host, and the outcome on an editor of some kind: they are the same, the kind
apart, and the caret stands in the text. -/
structure Agree {α : Type} (k : EditorKind) (out out' : Outcome α) : Prop where
  inText : out.1.InText
  eq_withKind : out' = (out.1.withKind k, out.2)

theorem tellEach_agree {k : EditorKind} {r r' : Nat → Editor → Outcome Bool}
    (hreact : ∀ (i : Nat) (e : Editor), e.InText → Agree k (r i e) (r' i (e.withKind k)))
    (ls : List Listener) (he : e.InText) :
    Agree k (tellEach r ls e) (tellEach r' ls (e.withKind k)) := by
  induction ls generalizing e with
  | nil => exact ⟨he, rfl⟩
  | cons l ls ih =>
      cases l with
      | recorder =>
          have hrecorded : e.recorded.InText := he
          exact ih hrecorded
      | failing fails =>
          have hcalled : e.called.InText := he
          have hsame : fails (e.withKind k).calls (e.withKind k).sighting =
              fails e.calls e.sighting := rfl
          rw [tellEach, tellEach, tell, tell, hsame]
          cases fails e.calls e.sighting with
          | true => exact ⟨hcalled, rfl⟩
          | false => exact ih hcalled
      | controller i =>
          obtain ⟨hin, heq⟩ := hreact i e he
          rw [tellEach, tellEach, tell, tell, heq]
          -- what the controller leaves behind is all that the rest depends on
          generalize r i e = out at hin ⊢
          rcases out with ⟨e', result⟩
          cases result with
          | error x => exact ⟨hin, rfl⟩
          | ok => exact ih hin

end Editor

/-! ## Hosts that do what an editor does -/

namespace Host

open Editor

/-- A host does what an editor does while the caret stands in the text. A text put in place that is
the one already there is not spoken of. -/
structure Faithful (h : Host) : Prop where
  insert_eq : ∀ (e : Editor) (c : Char), e.InText → h.insert e c = e.insert [c]
  place_eq : ∀ (e : Editor) (offset : Int), e.InText → h.place e offset = e.placeCaret offset
  assign_eq : ∀ (e : Editor) (text : Text), e.InText → text ≠ e.text →
    h.assign e text = (e.replaced text, true)
  announce_eq : ∀ (react : Nat → Editor → Outcome Bool) (e : Editor),
    h.announce react e = Editor.announce react e

variable {h : Host} {e : Editor} {i : Nat} {c : Controller} {p : Plan}

theorem Faithful.replaceText_eq (hh : h.Faithful) (he : e.InText)
    (hchanged : (c.planFor e).changed = true) (react : Nat → Editor → Outcome Bool) :
    h.replaceText react (c.planFor e).text ((e.noted i (c.planFor e)).setGuard i ⟨true⟩) =
      Editor.announce react (e.beginWrite i (c.planFor e)) := by
  have hdiffers : (c.planFor e).text ≠ e.text := by
    rw [Controller.text_planFor]
    exact Controller.changed_planFor.mp hchanged
  have hassign : h.assign ((e.noted i (c.planFor e)).setGuard i ⟨true⟩) (c.planFor e).text =
      (e.beginWrite i (c.planFor e), true) := hh.assign_eq _ _ he hdiffers
  rw [replaceText, hassign]
  exact hh.announce_eq react _

theorem Faithful.carryOut_eq (hh : h.Faithful) {react : Nat → Editor → Outcome Bool} {e' : Editor}
    (hreplace : h.replaceText react p.text (e.setGuard i ⟨true⟩) = (e', .ok ()))
    (he' : e'.InText) : h.carryOut react i ⟨true⟩ p e = (e'.endWrite i p, .ok true) := by
  rw [carryOut, hreplace]
  cases hcaret : p.caret with
  | none =>
      simp only [endWrite, hcaret]
      rfl
  | some offset =>
      simp only [endWrite, hcaret, hh.place_eq e' offset he']
      rfl

/-- On a faithful host and on an editor of either kind, a controller reacts alike. -/
theorem Faithful.react_agree (hh : h.Faithful) (k : EditorKind) (depth i : Nat) (he : e.InText) :
    Agree k (h.react depth i e) (Editor.react depth i (e.withKind k)) := by
  induction depth generalizing i e with
  | zero => exact ⟨he, rfl⟩
  | succ depth ih =>
      rcases e.ignores_or_heeds i with hi | ⟨c, hi⟩
      · have hi' : (e.withKind k).Ignores i := hi
        rw [Editor.react, react_of_ignores h hi, react_of_ignores Editor.host hi']
        exact ⟨he, rfl⟩
      have hplan : c.planFor (e.withKind k) = c.planFor e := rfl
      have hnoted : (e.noted i (c.planFor e)).InText := he
      have hwrite := he.beginWrite i (c.planFor e)
      have hreplace := fun hchanged =>
        hh.replaceText_eq (c := c) (i := i) he hchanged (h.react depth)
      rw [react_of_free h hi.controller_eq hi.free, ← Controller.planFor,
        Editor.react_of_heeds (hi.withKind k), hplan]
      -- whatever the plan, its write is told of with room for one level less
      generalize c.planFor e = p at hnoted hwrite hreplace ⊢
      split
      · rename_i hchanged
        obtain ⟨hin, heq⟩ : Agree k (Editor.announce (h.react depth) (e.beginWrite i p))
            (Editor.announce (Editor.react depth) ((e.withKind k).beginWrite i p)) :=
          tellEach_agree (fun i e he => ih i he) e.listeners hwrite
        rw [heq]
        generalize Editor.announce (h.react depth) (e.beginWrite i p) = out at hin hreplace ⊢
        rcases out with ⟨e', result⟩
        cases result with
        | error x =>
            rw [carryOut, hreplace hchanged]
            exact ⟨hin, rfl⟩
        | ok =>
            rw [hh.carryOut_eq (hreplace hchanged) hin]
            refine ⟨hin.endWrite i p, ?_⟩
            dsimp only
            rw [endWrite_withKind]
      · exact ⟨hnoted, rfl⟩

theorem Faithful.type_agree (hh : h.Faithful) (k : EditorKind) (he : e.InText) (cs : Text) :
    Agree k (h.type cs e) ((e.withKind k).type cs) := by
  induction cs generalizing e with
  | nil => exact ⟨he, rfl⟩
  | cons c cs ih =>
      obtain ⟨hin, heq⟩ : Agree k (h.notify (e.insert [c])) ((e.withKind k).insert [c]).notify := by
        rw [notify, hh.announce_eq]
        exact tellEach_agree (fun i e he => hh.react_agree k _ i he) e.listeners (he.insert [c])
      rw [type, hh.insert_eq e c he, Editor.type_cons, heq]
      generalize h.notify (e.insert [c]) = out at hin ⊢
      rcases out with ⟨e', result⟩
      cases result with
      | error x => exact ⟨hin, rfl⟩
      | ok => exact ih hin

end Host

/-! ## Lawful buffers -/

theorem plainBuffer_lawful : plainBuffer.Lawful where
  insert_eq c l _ := by
    rw [List.append_assoc]
    rfl
  assign_eq text l _ := by
    have hcursor : (if text.length < l.cursor then text.length else l.cursor) =
        min l.cursor text.length := by
      split <;> omega
    simp only [plainBuffer, hcursor, bne, beq_eq_decide, decide_not]
  place_eq offset l _ := by
    simp only [plainBuffer]
    split
    · exact congrArg (Line.mk l.text) (by omega)
    split
    · exact congrArg (Line.mk l.text) (by omega)
    · exact congrArg (Line.mk l.text) (by omega)
  fire_nil _ := rfl
  fire_cons handler handlers e := by
    simp only [plainBuffer, plainBuffer.fire]
    rcases handler e with ⟨e', result⟩
    cases result <;> rfl

namespace Buffer

open Editor

variable {b : Buffer} {e : Editor}

theorem Lawful.announce_eq (hb : b.Lawful) (react : Nat → Editor → Outcome Bool) (e : Editor) :
    b.host.announce react e = Editor.announce react e := by
  show b.fire (e.listeners.map (Editor.tell react)) e = tellEach react e.listeners e
  generalize e.listeners = ls
  induction ls generalizing e with
  | nil => exact hb.fire_nil e
  | cons l ls ih =>
      rw [List.map_cons, hb.fire_cons, tellEach]
      rcases Editor.tell react l e with ⟨e', result⟩
      cases result with
      | error x => rfl
      | ok => exact ih e'

/-- A lawful buffer does what an editor does. -/
theorem Lawful.faithful (hb : b.Lawful) : b.host.Faithful where
  insert_eq e c he := by
    have hcaret : ((e.caret.toNat + 1 : Nat) : Int) = e.caret + 1 := by
      have hlow := he.1
      omega
    show e.withLine (b.insert c e.line) = e.insert [c]
    rw [hb.insert_eq c e.line he.cursor_le, Editor.insert, he.before_eq]
    simp only [withLine, line, hcaret]
    rfl
  place_eq e offset he := by
    have hcaret : (((max 0 (min offset (e.text.length : Int))).toNat : Nat) : Int) =
        max 0 (min offset e.text.length) := by omega
    show e.withLine (b.place offset e.line) = e.placeCaret offset
    rw [hb.place_eq offset e.line he.cursor_le, Editor.placeCaret]
    simp only [withLine, line, hcaret]
  assign_eq e text he hdiffers := by
    have hcaret : ((min e.caret.toNat text.length : Nat) : Int) = min e.caret text.length := by
      have hlow := he.1
      omega
    have hassign : b.assign text e.line = (⟨text, min e.caret.toNat text.length⟩, true) := by
      rw [hb.assign_eq text e.line he.cursor_le]
      simp only [line, hdiffers, ne_eq, not_false_eq_true, decide_true]
    simp only [host, hassign, withLine, hcaret]
    rfl
  announce_eq := hb.announce_eq

end Buffer

end WikiCasing
