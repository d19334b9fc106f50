import Mathlib.Data.List.Basic
import WikiCasing.Console.Markup

/-!
# Messages that can be shown

Words without opening brackets and backslashes hold no tag and no part of one, so they are the same
pieces whatever follows them (`pieces_plain_append`). A message that sets such words in red, as
errors are set, can be shown (`exists_display_red`): the one style it opens is the one it closes.
-/

namespace WikiCasing.Console

variable {words : Text}

/-- Words in which no tag begins, and no backslash that could escape one. -/
def Untagged (words : Text) : Prop := '[' ∉ words ∧ '\\' ∉ words

theorem escapedTag?_cons_of_ne {c : Char} (hopen : c ≠ '[') (hescape : c ≠ '\\') (t : Text) :
    escapedTag? (c :: t) = none := by
  have hnone : (c :: t).takeWhile (· = '\\') = [] := by simp [hescape]
  rw [escapedTag?, hnone, List.length_nil, List.drop_zero, tag?]
  · rfl
  · intro d cs heq
    exact hopen (List.cons.inj heq).1

theorem pieces_plain_append (h : Untagged words) (t : Text) :
    pieces (words ++ t) = words.map .plain ++ pieces t := by
  induction words with
  | nil => rfl
  | cons c words ih =>
      obtain ⟨hopen, hescape⟩ := h
      rw [List.mem_cons, not_or] at hopen hescape
      have hcons : pieces (c :: (words ++ t)) = .plain c :: pieces (words ++ t) := by
        rw [pieces, piecesAfter,
          escapedTag?_cons_of_ne (Ne.symm hopen.1) (Ne.symm hescape.1)]
        rfl
      rw [List.cons_append, hcons, ih ⟨hopen.2, hescape.2⟩, List.map_cons, List.cons_append]

theorem showPieces_plain_append (place : Nat) (pending : Text) (styles : List Text) (words : Text)
    (rest : List Piece) :
    showPieces place pending styles (words.map .plain ++ rest) =
      showPieces (place + words.length) (pending ++ words) styles rest := by
  induction words generalizing place pending with
  | nil =>
      rw [List.map_nil, List.nil_append, List.append_nil]
      rfl
  | cons c words ih =>
      rw [List.map_cons, List.cons_append, showPieces, ih, List.length_cons, List.append_assoc,
        List.singleton_append, Nat.add_right_comm, Nat.add_assoc]

/-- Red is a style, or no style that has this name; in no case is it a colour with a part
missing. -/
theorem exists_normal_red : ∃ style, Style.normal? "red".toList = some style := by
  have hcolour : ∀ e, readColour "red".toList = .error e → e = .noStyle := by
    intro e h
    rw [readColour] at h
    split at h
    · exact absurd h (by simp)
    · have hmixed : argument? "rgb".toList "red".toList = none := by decide
      rw [hmixed] at h
      exact (Except.error.inj h).symm
  have hwords : Text.words "red".toList = ["red".toList] := by decide +kernel
  have hlower : Casing.lower "red".toList = "red".toList := by decide +kernel
  have hattribute : attribute? "red".toList = none := by decide +kernel
  have hstyle : Style.ofWords {} ["red".toList] =
      (readColour "red".toList).bind fun colour => .ok { colour := some colour } := by
    rw [Style.ofWords, hlower, if_neg (by decide), if_neg (by decide), if_neg (by decide),
      hattribute]
    rfl
  rw [Style.normal?, hwords, hstyle]
  split
  · exact ⟨_, rfl⟩
  · cases hread : readColour "red".toList with
    | ok colour => exact ⟨_, rfl⟩
    | error e =>
        obtain rfl := hcolour e hread
        exact ⟨_, rfl⟩

variable {style : Text} (hstyle : Style.normal? "red".toList = some style)
include hstyle

theorem afterTag_red (place : Nat) : afterTag [] "red".toList place = .ok [style] := by
  have hname : "red".toList.takeWhile (· ≠ '=') = "red".toList := by decide
  unfold afterTag
  rw [hname]
  split
  · rename_i closed heq
    exact absurd (List.cons.inj heq).1 (by decide)
  · rw [hstyle]

theorem afterTag_red_end (place : Nat) : afterTag [style] "/red".toList place = .ok [] := by
  have hname : "/red".toList.takeWhile (· ≠ '=') = '/' :: "red".toList := by decide
  have htrim : Text.trim "red".toList = "red".toList := by decide +kernel
  unfold afterTag
  rw [hname]
  split
  · rename_i closed heq
    obtain rfl := (List.cons.inj heq).2
    rw [htrim, hstyle, if_neg (by decide)]
    simp
  · rename_i hslash
    exact absurd rfl (hslash "red".toList)

omit hstyle

theorem exists_showPieces_tag {styles styles' : List Text} {name : Text}
    (htag : ∀ place, afterTag styles name place = .ok styles') (place : Nat) (pending : Text)
    (rest : List Piece) :
    ∃ before next, showPieces place pending styles (.tag 0 name :: rest) =
      (showPieces next [] styles' rest).map (before ++ ·) := by
  rw [showPieces, if_neg (by decide), htag]
  exact ⟨_, _, rfl⟩

/-- An error message can be shown whatever untagged words it consists of. -/
theorem exists_display_red (h : Untagged words) :
    ∃ shown, display ("[red]".toList ++ words ++ "[/red]".toList) = .ok shown := by
  obtain ⟨style, hstyle⟩ := exists_normal_red
  have hpieces : pieces ("[red]".toList ++ words ++ "[/red]".toList) =
      .tag 0 "red".toList :: (words.map .plain ++ [.tag 0 "/red".toList]) := by
    have hbehind := pieces_plain_append h "[/red]".toList
    exact congrArg (.tag 0 "red".toList :: ·) hbehind
  obtain ⟨before, next, hopened⟩ := exists_showPieces_tag (afterTag_red hstyle) 0 []
    (words.map .plain ++ [.tag 0 "/red".toList])
  obtain ⟨before', next', hclosed⟩ := exists_showPieces_tag (afterTag_red_end hstyle)
    (next + words.length) ([] ++ words) []
  rw [display, unmark, hpieces, hopened, showPieces_plain_append, hclosed]
  exact ⟨_, rfl⟩

end WikiCasing.Console
