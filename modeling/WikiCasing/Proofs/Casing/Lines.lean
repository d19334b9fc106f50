import WikiCasing.Proofs.Casing.Words
import WikiCasing.Proofs.Text.Newline

/-!
# Casing line by line

Line feeds and carriage returns are separators, so no transform sees past one: it does to the text
before a line end what it would do to that text alone, and what it does behind it does not depend
on what stands before (`ByLines`). So it makes no difference whether the line ends of a text are
read as line feeds before the text is cased or after (`apply_universalNewlines`), nor does reading
them hide from anyone whether casing changed the text (`apply_universalNewlines_eq_self_iff`).
-/

namespace WikiCasing

theorem Keeps.append_cons_eq_iff {s s' t t' : Text} (hs : Keeps s s') (ht : Keeps t t') (c : Char) :
    s' ++ c :: t' = s ++ c :: t ↔ s' = s ∧ t' = t := by
  constructor
  · intro h
    have hlen := congrArg List.length h
    have hs := hs.length_le
    have ht := ht.length_le
    simp only [List.length_append, List.length_cons] at hlen
    obtain ⟨hbefore, hbehind⟩ := List.append_inj h (by omega)
    exact ⟨hbefore, (List.cons.inj hbehind).2⟩
  · rintro ⟨rfl, rfl⟩
    rfl

namespace Casing

variable {f g : Text → Text}

theorem separator_feed : Separator '\n' where
  lowered := by decide +kernel
  raised := by decide +kernel
  notIgnorable := by decide +kernel
  notCased := by decide +kernel
  notWord := by decide +kernel
  notApostrophe := by decide +kernel

theorem separator_return : Separator '\r' where
  lowered := by decide +kernel
  raised := by decide +kernel
  notIgnorable := by decide +kernel
  notCased := by decide +kernel
  notWord := by decide +kernel
  notApostrophe := by decide +kernel

/-- A transform keeps a text, and one more transform is what it comes to behind a line end, whatever
stands before. -/
structure ByLines (f g : Text → Text) : Prop where
  keeps : ∀ t, Keeps t (f t)
  feed : ∀ s t, f (s ++ '\n' :: t) = f s ++ '\n' :: g t
  carriageReturn : ∀ s t, f (s ++ '\r' :: t) = f s ++ '\r' :: g t

/-! ## The transforms -/

theorem byLines_lower : ByLines lower lower where
  keeps := keeps_lower
  feed := separator_feed.lower_append
  carriageReturn := separator_return.lower_append

theorem byLines_upper : ByLines upper upper where
  keeps := keeps_upper
  feed := separator_feed.upper_append
  carriageReturn := separator_return.upper_append

theorem byLines_title : ByLines title title where
  keeps := keeps_title
  feed := separator_feed.title_append
  carriageReturn := separator_return.title_append

theorem byLines_id : ByLines id id where
  keeps := Keeps.refl
  feed _ _ := rfl
  carriageReturn _ _ := rfl

/-- Behind the first line end the leading word is over. -/
theorem byLines_lowerFirstWord : ByLines lowerFirstWord id where
  keeps := keeps_lowerFirstWord
  feed := separator_feed.lowerFirstWord_append
  carriageReturn := separator_return.lowerFirstWord_append

theorem Separator.capital_append_any {c : Char} (h : Separator c) (s t : Text) :
    capital (s ++ c :: t) = capital s ++ c :: lower t := by
  by_cases hs : s = []
  · subst hs
    have hlower : lower (c :: t) = c :: lower t := h.lower_append [] t
    rw [List.nil_append, capital, hlower]
    dsimp only
    rw [h.raised]
    rfl
  · exact h.capital_append hs t

theorem byLines_capital : ByLines capital lower where
  keeps := keeps_capital
  feed := separator_feed.capital_append_any
  carriageReturn := separator_return.capital_append_any

theorem exists_byLines_apply (x : Command) (b : Bool) :
    ∃ g, ByLines (apply x b) g ∧ ByLines g g := by
  cases x with
  | lower =>
      cases b with
      | false => exact ⟨lower, byLines_lower, byLines_lower⟩
      | true => exact ⟨id, byLines_lowerFirstWord, byLines_id⟩
  | upper => exact ⟨upper, byLines_upper, byLines_upper⟩
  | title => exact ⟨title, byLines_title, byLines_title⟩
  | capital => exact ⟨lower, byLines_capital, byLines_lower⟩

/-! ## Line ends read before and after -/

namespace ByLines

theorem apply_nil (h : ByLines f g) : f [] = [] := eq_nil_of_skeleton (h.keeps []).skeleton_eq

theorem apply_feed (hg : ByLines g g) (t : Text) : g ('\n' :: t) = '\n' :: g t := by
  have hfeed := hg.feed [] t
  rwa [List.nil_append, hg.apply_nil, List.nil_append] at hfeed

theorem head?_eq_feed_iff (h : ByLines f g) (t : Text) :
    (f t).head? = some '\n' ↔ t.head? = some '\n' := by
  have hsign : ∀ c ∈ ['\n'], isSign c = true := List.forall_mem_singleton.mpr (by decide)
  rw [← List.singleton_prefix_iff_head?_eq_some, ← List.singleton_prefix_iff_head?_eq_some,
    ← prefix_skeleton hsign, (h.keeps t).skeleton_eq, prefix_skeleton hsign]

theorem return_not_mem (h : ByLines f g) {t : Text} (ht : '\r' ∉ t) : '\r' ∉ f t := by
  have hsign : isSign '\r' = true := by decide
  rw [← List.count_eq_zero, ← count_skeleton hsign] at ht ⊢
  rw [(h.keeps t).skeleton_eq, ht]

variable (hf : ByLines f g) (hg : ByLines g g)
include hf hg

/-- Casing and then reading the line ends comes to the same as reading them and then casing. -/
theorem universalNewlines (t : Text) : f t.universalNewlines = (f t).universalNewlines := by
  induction t using Text.universal_induction generalizing f with
  | last s hs =>
      rw [Text.universalNewlines_of_not_mem hs,
        Text.universalNewlines_of_not_mem (hf.return_not_mem hs)]
  | both s r hs ih =>
      rw [Text.universalNewlines_append hs, Text.universalNewlines_return_feed, hf.feed, ih hg,
        hf.carriageReturn, Text.universalNewlines_append (hf.return_not_mem hs), hg.apply_feed,
        Text.universalNewlines_return_feed]
  | alone s r hs hr ih =>
      rw [Text.universalNewlines_append hs, Text.universalNewlines_return hr, hf.feed, ih hg,
        hf.carriageReturn, Text.universalNewlines_append (hf.return_not_mem hs),
        Text.universalNewlines_return (mt (hg.head?_eq_feed_iff r).mp hr)]

theorem universalNewlines_eq_self_iff (t : Text) :
    f t.universalNewlines = t.universalNewlines ↔ f t = t := by
  induction t using Text.universal_induction generalizing f with
  | last s hs => rw [Text.universalNewlines_of_not_mem hs]
  | both s r hs ih =>
      rw [Text.universalNewlines_append hs, Text.universalNewlines_return_feed, hf.feed,
        hf.carriageReturn, (hf.keeps s).append_cons_eq_iff (hg.keeps _),
        (hf.keeps s).append_cons_eq_iff (hg.keeps _), ih hg, hg.apply_feed, List.cons_inj_right]
  | alone s r hs hr ih =>
      rw [Text.universalNewlines_append hs, Text.universalNewlines_return hr, hf.feed,
        hf.carriageReturn, (hf.keeps s).append_cons_eq_iff (hg.keeps _),
        (hf.keeps s).append_cons_eq_iff (hg.keeps _), ih hg]

end ByLines

theorem apply_universalNewlines (x : Command) (b : Bool) (t : Text) :
    apply x b t.universalNewlines = (apply x b t).universalNewlines := by
  obtain ⟨g, hf, hg⟩ := exists_byLines_apply x b
  exact hf.universalNewlines hg t

theorem apply_universalNewlines_eq_self_iff (x : Command) (b : Bool) (t : Text) :
    apply x b t.universalNewlines = t.universalNewlines ↔ apply x b t = t := by
  obtain ⟨g, hf, hg⟩ := exists_byLines_apply x b
  exact hf.universalNewlines_eq_self_iff hg t

/-- Behind a carriage return alone a word opens, as behind a line feed. -/
example : apply .title false "ab\rcd\r\nEF".toList = "Ab\rCd\r\nEf".toList ∧
    apply .title false "ab\ncd\nEF".toList = "Ab\nCd\nEf".toList := by
  decide +kernel

end Casing

end WikiCasing
