import WikiCasing.Proofs.Casing.UpperOfLower

/-!
# Words by themselves

A transform cannot see past a separator, such as a space. The context of a sigma ends there, on
either side (`Separator.lowerFrom_append`), and so does what decides where a word opens: behind a
separator words open as they do at the beginning of a text (`Separator.alike_nil`). So two texts
with a space between them are cased one by one (`cased_by_words`).

Whether a letter opens a word is read off the two characters before it. `Alike` says of two texts
that words open behind them alike, and go on doing so whatever follows. It is all that needs to be
known about what stands before a text to mark the letters in it that open words (`marked`).
-/

namespace WikiCasing.Casing

open Unicode

/-! ## What stands before a letter -/

theorem isWordChar_of_letter_or_mark {c : Char} (h : isLetter c = true ∨ isMark c = true) :
    isWordChar c = true := by
  rw [isWordChar]
  rcases h with h | h
  · rw [h, Bool.true_or, Bool.true_or, Bool.true_or]
  · rw [h, Bool.or_true, Bool.true_or, Bool.true_or]

/-- A character that continues a word stands last. -/
def endsInWord : (before : Text) → Bool
  | [] => false
  | p :: _ => isWordChar p

/-- The two texts, each nearest first, open words alike, here and behind whatever follows them. -/
structure Alike (x y : Text) : Prop where
  opens : opensWord x = opensWord y
  ends : endsInWord x = endsInWord y

theorem opensWord_cons (p : Char) (before : Text) :
    opensWord (p :: before) = (!isWordChar p && !(isApostrophe p && endsInWord before)) := by
  cases before with
  | nil =>
      show (!isWordChar p) = (!isWordChar p && !(isApostrophe p && false))
      rw [Bool.and_false, Bool.not_false, Bool.and_true]
  | cons q before => rfl

theorem opensWord_of_endsInWord {before : Text} (h : endsInWord before = true) :
    opensWord before = false := by
  cases before with
  | nil => exact absurd h Bool.false_ne_true
  | cons p before =>
      have hp : isWordChar p = true := h
      rw [opensWord_cons, hp, Bool.not_true, Bool.false_and]

namespace Alike

variable {x y : Text}

theorem refl (x : Text) : Alike x x := ⟨rfl, rfl⟩

theorem cons (h : Alike x y) (p : Char) : Alike (p :: x) (p :: y) where
  opens := by rw [opensWord_cons, opensWord_cons, h.ends]
  ends := rfl

theorem of_endsInWord (hx : endsInWord x = true) (hy : endsInWord y = true) : Alike x y where
  opens := by rw [opensWord_of_endsInWord hx, opensWord_of_endsInWord hy]
  ends := hx.trans hy.symm

end Alike

theorem endsInWord_reverse_append {before w : Text} (hbefore : endsInWord before = true)
    (hw : ∀ d ∈ w, isWordChar d = true) : endsInWord (w.reverse ++ before) = true := by
  induction w generalizing before with
  | nil => exact hbefore
  | cons d w ih =>
      obtain ⟨hd, hw⟩ := List.forall_mem_cons.mp hw
      rw [List.reverse_cons, List.append_assoc]
      exact ih hd hw

/-! ## The letters that open words -/

/-- The characters of a text, each with whether it is a letter that opens a word there. -/
def marked (before : Text) : Text → List (Char × Bool)
  | [] => []
  | c :: cs => (c, isLetter c && opensWord before) :: marked (c :: before) cs

/-- A text with the marked characters raised. -/
def raised (marks : List (Char × Bool)) : Text :=
  marks.flatMap fun p => if p.2 then upperChar p.1 else [p.1]

theorem raised_cons (p : Char × Bool) (marks : List (Char × Bool)) :
    raised (p :: marks) = (if p.2 then upperChar p.1 else [p.1]) ++ raised marks := rfl

theorem raised_append (marks marks' : List (Char × Bool)) :
    raised (marks ++ marks') = raised marks ++ raised marks' :=
  List.flatMap_append

theorem raised_unmarked (t : Text) : raised (t.map (·, false)) = t := by
  induction t with
  | nil => rfl
  | cons c t ih =>
      rw [List.map_cons, raised_cons, ih]
      rfl

theorem raiseWords_eq_raised (before t : Text) :
    raiseWords before t = raised (marked before t) := by
  induction t generalizing before with
  | nil => rfl
  | cons c t ih =>
      rw [raiseWords, marked, raised_cons, ih]

theorem title_eq_raised (t : Text) : title t = raised (marked [] (lower t)) :=
  raiseWords_eq_raised [] (lower t)

theorem marked_append (before s t : Text) :
    marked before (s ++ t) = marked before s ++ marked (s.reverse ++ before) t := by
  induction s generalizing before with
  | nil => rfl
  | cons c s ih =>
      rw [List.cons_append, marked, marked, ih, List.cons_append, List.reverse_cons,
        List.append_assoc, List.singleton_append]

theorem map_fst_marked (before t : Text) : (marked before t).map Prod.fst = t := by
  induction t generalizing before with
  | nil => rfl
  | cons c t ih => rw [marked, List.map_cons, ih]

theorem Alike.marked_eq {x y : Text} (h : Alike x y) (t : Text) : marked x t = marked y t := by
  induction t generalizing x y with
  | nil => rfl
  | cons c t ih => rw [marked, marked, h.opens, ih (h.cons c)]

theorem marked_of_endsInWord {before w : Text} (hbefore : endsInWord before = true)
    (hw : ∀ d ∈ w, isWordChar d = true) : marked before w = w.map (·, false) := by
  induction w generalizing before with
  | nil => rfl
  | cons d w ih =>
      obtain ⟨hd, hw⟩ := List.forall_mem_cons.mp hw
      have hnext : endsInWord (d :: before) = true := hd
      rw [marked, opensWord_of_endsInWord hbefore, Bool.and_false, ih hnext hw, List.map_cons]

theorem mem_marked_iff {before t : Text} {c : Char} :
    (c, true) ∈ marked before t ↔
      ∃ s u, t = s ++ c :: u ∧ isLetter c = true ∧ opensWord (s.reverse ++ before) = true := by
  constructor
  · intro h
    induction t generalizing before with
    | nil => exact absurd h List.not_mem_nil
    | cons d t ih =>
        rw [marked] at h
        rcases List.mem_cons.mp h with heq | hrest
        · obtain ⟨rfl, hopens⟩ := Prod.mk.inj heq
          rw [eq_comm, Bool.and_eq_true] at hopens
          exact ⟨[], t, rfl, hopens.1, hopens.2⟩
        · obtain ⟨s, u, rfl, hletter, hopens⟩ := ih hrest
          refine ⟨d :: s, u, rfl, hletter, ?_⟩
          rwa [List.reverse_cons, List.append_assoc]
  · rintro ⟨s, u, rfl, hletter, hopens⟩
    rw [marked_append, marked, hletter, hopens]
    exact List.mem_append_right _ List.mem_cons_self

/-! ## Separators -/

/-- A character without case that is in no word, and at which the context of a sigma ends. -/
structure Separator (c : Char) : Prop where
  lowered : Lowered c
  raised : upperChar c = [c]
  notIgnorable : isCaseIgnorable c = false
  notCased : isCased c = false
  notWord : isWordChar c = false
  notApostrophe : isApostrophe c = false

theorem separator_space : Separator ' ' where
  lowered := by decide +kernel
  raised := by decide +kernel
  notIgnorable := by decide +kernel
  notCased := by decide +kernel
  notWord := by decide +kernel
  notApostrophe := by decide +kernel

theorem beforeCased_cons (c : Char) (rest : Text) :
    beforeCased (c :: rest) = if isCaseIgnorable c then beforeCased rest else isCased c := by
  unfold beforeCased
  rw [List.dropWhile_cons]
  cases isCaseIgnorable c with
  | true => rfl
  | false => rfl

namespace Separator

variable {c : Char} (h : Separator c)
include h

theorem notLetter : isLetter c = false := by
  have hword := h.notWord
  simp only [isWordChar, Bool.or_eq_false_iff] at hword
  exact hword.1.1.1

theorem not_opensText : opensText c = false := by
  have hword := h.notWord
  simp only [isWordChar, Bool.or_eq_false_iff] at hword
  rw [opensText, h.notApostrophe, hword.1.1.1, hword.1.1.2]
  rfl

/-- Behind a separator words open as at the beginning of a text. -/
theorem alike_nil (x : Text) : Alike (c :: x) [] where
  opens := by
    rw [opensWord_cons, h.notWord, h.notApostrophe]
    rfl
  ends := h.notWord

theorem beforeCased_append (s t : Text) : beforeCased (s ++ c :: t) = beforeCased s := by
  induction s with
  | nil =>
      rw [List.nil_append, beforeCased_cons, h.notIgnorable, if_neg Bool.false_ne_true, h.notCased]
      rfl
  | cons d s ih => rw [List.cons_append, beforeCased_cons, beforeCased_cons, ih]

theorem casedAfter_eq (afterCased : Bool) : casedAfter afterCased c = false := by
  rw [casedAfter, h.notIgnorable, if_neg Bool.false_ne_true, h.notCased]

theorem lowerFrom_append (afterCased : Bool) (s t : Text) :
    lowerFrom afterCased (s ++ c :: t) = lowerFrom afterCased s ++ c :: lower t := by
  induction s generalizing afterCased with
  | nil =>
      show lowerFrom afterCased (c :: t) = c :: lowerFrom false t
      rw [lowerFrom, if_neg h.lowered.ne_sigma, h.lowered, h.casedAfter_eq, List.singleton_append]
  | cons d s ih =>
      rw [List.cons_append, lowerFrom, lowerFrom, ih, List.append_assoc, lowerSigma, lowerSigma,
        h.beforeCased_append]

theorem lower_append (s t : Text) : lower (s ++ c :: t) = lower s ++ c :: lower t :=
  h.lowerFrom_append false s t

theorem upper_append (s t : Text) : upper (s ++ c :: t) = upper s ++ c :: upper t := by
  rw [Casing.upper_append, upper_cons, h.raised, List.singleton_append]

theorem marked_append (before s t : Text) :
    marked before (s ++ c :: t) = marked before s ++ (c, false) :: marked [] t := by
  rw [Casing.marked_append, marked, h.notLetter, Bool.false_and, (h.alike_nil _).marked_eq]

theorem title_append (s t : Text) : title (s ++ c :: t) = title s ++ c :: title t := by
  rw [title_eq_raised, h.lower_append, h.marked_append, raised_append, raised_cons,
    ← title_eq_raised, ← title_eq_raised]
  rfl

theorem lowerFirstWord_append (s t : Text) :
    lowerFirstWord (s ++ c :: t) = lowerFirstWord s ++ c :: t := by
  have hstop := h.not_opensText
  rw [lowerFirstWord, lowerFirstWord, Text.takeWhile_append_cons hstop,
    Text.dropWhile_append_cons hstop, List.append_assoc]

theorem capital_append {s : Text} (hs : s ≠ []) (t : Text) :
    capital (s ++ c :: t) = capital s ++ c :: lower t := by
  have hne : lower s ≠ [] := by
    intro hnil
    exact hs ((apply_eq_nil_iff .lower false s).mp hnil)
  obtain ⟨d, u, hlower⟩ := List.exists_cons_of_ne_nil hne
  unfold capital
  rw [h.lower_append, hlower]
  exact (List.append_assoc (upperChar d) u (c :: lower t)).symm

end Separator

/-- Two texts with a space between them are cased one by one. -/
theorem cased_by_words (a b : Text) :
    title (a ++ [' '] ++ b) = title a ++ [' '] ++ title b ∧
    lower (a ++ [' '] ++ b) = lower a ++ [' '] ++ lower b ∧
    upper (a ++ [' '] ++ b) = upper a ++ [' '] ++ upper b ∧
    lowerFirstWord (a ++ [' '] ++ b) = lowerFirstWord a ++ [' '] ++ b ∧
    (a ≠ [] → capital (a ++ [' '] ++ b) = capital a ++ [' '] ++ lower b) := by
  have h := separator_space
  simp only [List.append_assoc, List.singleton_append]
  exact ⟨h.title_append a b, h.lower_append a b, h.upper_append a b, h.lowerFirstWord_append a b,
    fun ha => h.capital_append ha b⟩

/-- The sigma before the space is lowered to its final form, and the one behind it to the other. -/
theorem cased_by_words_sigmas :
    "ΟΔΟΣ".toList ≠ [] ∧
      capital ("ΟΔΟΣ".toList ++ [' '] ++ "ΣΑΣ".toList) =
        capital "ΟΔΟΣ".toList ++ [' '] ++ lower "ΣΑΣ".toList ∧
      capital ("ΟΔΟΣ".toList ++ [' '] ++ "ΣΑΣ".toList) = "Οδος σας".toList := by
  have hne : "ΟΔΟΣ".toList ≠ [] := by decide +kernel
  exact ⟨hne, (cased_by_words _ _).2.2.2.2 hne, by decide +kernel⟩

end WikiCasing.Casing
