import WikiCasing.Proofs.Editor.Writes

/-!
# Guards after an operation

A controller takes its guard for the time of its write and lets go of it whether the write succeeds
or some listener, however deep in the notifications that the write causes, fails, at once or after
other writes have been completed. So when an
operation of an editor is over, each guard is as it was before, also one that is held from outside
(`guards_restored`). A guard is never taken while it is held: a notification that reaches its
controller then is lost. For a controller to which its own write is the only thing that could
matter this means that it writes once, or not at all.
-/

namespace WikiCasing

namespace Editor

variable {e : Editor} {ls : List Listener} {ws : List Write} {α : Type}

/-- An operation on an editor has left the guards as they were, and if it has failed, it was not
because a guard was held already. -/
structure Restored (e : Editor) (out : Outcome α) : Prop where
  guards_eq : out.1.guards = e.guards
  error_ne : out.2 ≠ .error .alreadyHeld

theorem Told.restored {out : Outcome Unit} (h : Told ls e ws out) : Restored e out where
  guards_eq := h.kept.guards_eq
  error_ne := by
    intro hx
    exact absurd (h.error_eq hx) (by decide)

theorem restored_notify (e : Editor) : Restored e e.notify := by
  obtain ⟨ws, h⟩ := exists_told_notify e
  exact h.restored

theorem restored_handle (e : Editor) (i : Nat) : Restored e (e.handle i) := by
  obtain ⟨ws, h⟩ := exists_told_handle e i
  refine ⟨h.restored.guards_eq, fun hx => h.restored.error_ne ?_⟩
  rw [hx]
  rfl

theorem restored_setText (e : Editor) (t : Text) : Restored e (e.setText t) := by
  rw [setText, replaceText_eq]
  split
  · exact ⟨rfl, by simp⟩
  · obtain ⟨h, h'⟩ := restored_notify (e.replaced t)
    exact ⟨h, h'⟩

theorem restored_type (e : Editor) (chars : Text) : Restored e (e.type chars) := by
  induction chars generalizing e with
  | nil => exact ⟨rfl, by simp [type_nil]⟩
  | cons c cs ih =>
      have hnotify : Restored e (e.insert [c]).notify := by
        obtain ⟨h, h'⟩ := restored_notify (e.insert [c])
        exact ⟨h, h'⟩
      rw [type_cons]
      split
      · rename_i e' heq
        rw [heq] at hnotify
        obtain ⟨h, h'⟩ := ih e'
        exact ⟨h.trans hnotify.guards_eq, h'⟩
      · rename_i e' x heq
        rw [heq] at hnotify
        refine ⟨hnotify.guards_eq, fun hx => hnotify.error_ne ?_⟩
        rw [Except.error.injEq] at hx ⊢
        exact hx

/-- Whoever listens and whichever guards are held, an operation on an editor leaves every guard as
it was, whether it succeeds or a listener fails, at whatever depth, after whatever calls, and
whatever it takes to make it fail; and no guard is taken that is held. A controller with a free
guard that is told once writes once if recasing changes the text, and otherwise not at all, provided
that no other controller listens; it may listen itself any number of times, and among recorders and
failing listeners. -/
theorem guards_restored (e : Editor) :
    (∀ i, Restored e (e.handle i)) ∧ (∀ chars, Restored e (e.type chars)) ∧
      (∀ t, Restored e (e.setText t)) ∧ (∀ offset, (e.placeCaret offset).guards = e.guards) ∧
      ∀ i c, e.controllers[i]? = some c → c.guard.held = false →
        (∀ j, .controller j ∈ e.listeners → j = i) →
        (e.handle i).1.writes = e.writes + (if recase c.settings e.text = e.text then 0 else 1) ∧
          (e.handle i).1.text = recase c.settings e.text := by
  refine ⟨restored_handle e, restored_type e, restored_setText e, fun _ => rfl, ?_⟩
  intro i c hc hfree honly
  obtain ⟨ws, h⟩ := exists_told_handle e i
  have hws := h.writes_of_only ⟨hc, hfree⟩ honly
  have hwrites := h.writeRun.writes_eq
  have htext := h.writeRun.linked
  rw [hws] at hwrites htext
  by_cases hsame : recase c.settings e.text = e.text
  · rw [if_pos hsame] at hwrites htext ⊢
    rw [hsame]
    exact ⟨hwrites, htext.symm⟩
  · rw [if_neg hsame] at hwrites htext ⊢
    exact ⟨hwrites, htext.2.symm⟩

/-- A listener fails when it is told of the second of two writes, one within the other. The guard
that was held from outside is still held, and the two that the controllers took are free. One that
fails at its second call fails after a write has been completed. -/
theorem guards_restored_failing :
    let e : Editor :=
      { kind := .announcing
        text := "[[a|B C]]\\l\\u".toList
        caret := 0
        listeners := [.controller 0, .recorder, .controller 1, .controller 2,
          .failing fun _ _ => true]
        controllers := [{}, {}, { guard := ⟨true⟩ }] }
    (e.handle 0).2 = .error .listenerFailed ∧ (e.handle 0).1.writes = 2 ∧
      (e.handle 0).1.guards = [⟨false⟩, ⟨false⟩, ⟨true⟩] ∧
      (e.type "x".toList).2 = .error .listenerFailed ∧ Restored e (e.type "x".toList) ∧
      (let later := { e with listeners := [.controller 0, .failing fun calls _ => calls == 1] }
      (later.type "x".toList).2 = .error .listenerFailed ∧
        (later.type "x".toList).1.text = "x[[a|b c]]\\u".toList ∧
        (later.type "x".toList).1.guards = [⟨false⟩, ⟨false⟩, ⟨true⟩]) ∧
      let alone := { e with listeners := [.controller 0, .controller 0, .failing fun _ _ => true] }
      alone.controllers[0]? = some { settings := .standard } ∧
        (∀ j, .controller j ∈ alone.listeners → j = 0) ∧
        (alone.handle 0).1.writes = 1 ∧ (alone.handle 0).1.text = "[[a|b c]]\\u".toList := by
  intro e
  obtain ⟨hhandle, htype, -, -, -⟩ := guards_restored e
  refine ⟨by decide +kernel, by decide +kernel, (hhandle 0).guards_eq, by decide +kernel,
    htype "x".toList, ?_, ?_⟩
  · intro later
    obtain ⟨-, htype, -, -, -⟩ := guards_restored later
    exact ⟨by decide +kernel, by decide +kernel, (htype "x".toList).guards_eq⟩
  intro alone
  have honly : ∀ j, .controller j ∈ alone.listeners → j = 0 := by
    intro j hj
    simpa [alone] using hj
  have hchanged : recase .standard alone.text ≠ alone.text := by decide +kernel
  have htext : recase .standard alone.text = "[[a|b c]]\\u".toList := by decide +kernel
  obtain ⟨-, -, -, -, honce⟩ := guards_restored alone
  obtain ⟨hwrites, hafter⟩ := honce 0 { settings := .standard } rfl rfl honly
  rw [if_neg hchanged] at hwrites
  exact ⟨rfl, honly, hwrites, hafter.trans htext⟩

end Editor

end WikiCasing
