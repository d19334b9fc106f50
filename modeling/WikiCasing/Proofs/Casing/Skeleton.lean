import WikiCasing.Casing.Transform
import WikiCasing.Proofs.Unicode.CaseImage

/-!
# Casing keeps the skeleton of a text

Links and front matter are written with seven signs: brackets, the bar, the backslash, the hyphen
and the two line-end characters. The skeleton of a text is what is left of it when each maximal
run of other characters shrinks to one gap. `skeleton_apply` says that no transform changes the
skeleton, and the section on what a skeleton knows draws the consequences that markup relies on:
a transform neither creates nor removes a sign, never joins two of them or takes them apart, and
empties no text (`Casing.skeleton_kept`). Nor does one shorten a text (`length_le_apply`).

The whole argument rests on one fact about characters, `Faithful`: a sign is mapped to itself, and
anything else to at least one character, none of them a sign.
-/

namespace WikiCasing

/-- The signs that links and front matter are written with. -/
def signs : Text := ['[', ']', '|', '\\', '-', '\r', '\n']

/-- A sign of markup. -/
def isSign (c : Char) : Bool := signs.contains c

/-- The code points of the signs. -/
def signCodes : List Nat := signs.map Char.toNat

/-- What a character contributes to a skeleton: a sign itself, anything else a gap. -/
def signOf? (c : Char) : Option Char := if isSign c then some c else none

/-- A skeleton with one more entry in front. A gap merges with the gap behind it. -/
def frame : Option Char → List (Option Char) → List (Option Char)
  | none, none :: k => none :: k
  | x, k => x :: k

/-- The signs of a text in order, with one gap for each maximal run of other characters. -/
def skeleton (t : Text) : List (Option Char) := t.foldr (fun c => frame (signOf? c)) []

@[simp] theorem skeleton_nil : skeleton [] = [] := rfl

@[simp] theorem skeleton_cons (c : Char) (t : Text) :
    skeleton (c :: t) = frame (signOf? c) (skeleton t) := rfl

example : skeleton "ab [[c|d-".toList =
    [none, some '[', some '[', none, some '|', none, some '-'] := by
  decide

theorem signOf?_of_sign {c : Char} (h : isSign c = true) : signOf? c = some c := by
  simp [signOf?, h]

theorem signOf?_of_plain {c : Char} (h : isSign c = false) : signOf? c = none := by
  simp [signOf?, h]

@[simp] theorem frame_some (c : Char) (k : List (Option Char)) :
    frame (some c) k = some c :: k := by
  cases k <;> rfl

@[simp] theorem frame_none_frame_none (k : List (Option Char)) :
    frame none (frame none k) = frame none k := by
  match k with
  | [] => rfl
  | none :: _ => rfl
  | some _ :: _ => rfl

/-- A list of entries framed in front of a skeleton does not care whether it has been framed
before. -/
theorem foldr_frame_frame (x : Option Char) (l k : List (Option Char)) :
    (frame x l).foldr frame k = frame x (l.foldr frame k) := by
  match x, l with
  | some c, l => simp
  | none, [] => rfl
  | none, none :: _ => exact (frame_none_frame_none _).symm
  | none, some c :: l => rfl

/-- The skeleton of a text in front of another is framed in front of its skeleton, so texts of the
same skeleton can be exchanged there. -/
theorem skeleton_append (s t : Text) :
    skeleton (s ++ t) = (skeleton s).foldr frame (skeleton t) := by
  induction s with
  | nil => rfl
  | cons c s ih => rw [List.cons_append, skeleton_cons, ih, skeleton_cons, foldr_frame_frame]

/-! ## The image of one character -/

/-- A text that may stand for a character without changing a skeleton. -/
structure Faithful (c : Char) (v : Text) : Prop where
  sign : isSign c = true → v = [c]
  ne_nil : v ≠ []
  plain : isSign c = false → ∀ d ∈ v, isSign d = false

theorem skeleton_plain_append {v : Text} (hne : v ≠ []) (h : ∀ d ∈ v, isSign d = false)
    (t : Text) : skeleton (v ++ t) = frame none (skeleton t) := by
  induction v with
  | nil => exact absurd rfl hne
  | cons d v ih =>
      have hd : signOf? d = none := signOf?_of_plain (h d List.mem_cons_self)
      rw [List.cons_append, skeleton_cons, hd]
      cases v with
      | nil => rfl
      | cons e v =>
          have hrest : skeleton (e :: v ++ t) = frame none (skeleton t) :=
            ih (by simp) (fun x hx => h x (List.mem_cons_of_mem _ hx))
          rw [hrest, frame_none_frame_none]

/-- A text has the skeleton of another and is not shorter. -/
structure Keeps (t u : Text) : Prop where
  skeleton_eq : skeleton u = skeleton t
  length_le : t.length ≤ u.length

theorem Keeps.refl (t : Text) : Keeps t t := ⟨rfl, Nat.le_refl _⟩

theorem Keeps.trans {t u v : Text} (h : Keeps t u) (h' : Keeps u v) : Keeps t v :=
  ⟨h'.skeleton_eq.trans h.skeleton_eq, Nat.le_trans h.length_le h'.length_le⟩

theorem Keeps.append {s s' t t' : Text} (hs : Keeps s s') (ht : Keeps t t') :
    Keeps (s ++ t) (s' ++ t') where
  skeleton_eq := by
    rw [skeleton_append, skeleton_append, hs.skeleton_eq, ht.skeleton_eq]
  length_le := by
    rw [List.length_append, List.length_append]
    exact Nat.add_le_add hs.length_le ht.length_le

theorem Faithful.keeps_append {c : Char} {v : Text} (h : Faithful c v) {t u : Text}
    (htu : Keeps t u) : Keeps (c :: t) (v ++ u) where
  skeleton_eq := by
    cases hc : isSign c with
    | true => rw [h.sign hc, List.singleton_append, skeleton_cons, skeleton_cons, htu.skeleton_eq]
    | false =>
        rw [skeleton_plain_append h.ne_nil (h.plain hc), skeleton_cons, signOf?_of_plain hc,
          htu.skeleton_eq]
  length_le := by
    have hpos : 0 < v.length := List.length_pos_iff.mpr h.ne_nil
    have hlen := htu.length_le
    rw [List.length_cons, List.length_append]
    omega

theorem Faithful.refl (c : Char) : Faithful c [c] where
  sign _ := rfl
  ne_nil := by simp
  plain h := by simp [h]

theorem Faithful.of_plain {c : Char} {v : Text} (hc : isSign c = false) (hne : v ≠ [])
    (h : ∀ d ∈ v, isSign d = false) : Faithful c v where
  sign hs := absurd hs (by simp [hc])
  ne_nil := hne
  plain _ := h

theorem isSign_ofNat {n : Nat} (h : n ∉ signCodes) : isSign (Char.ofNat n) = false := by
  refine Bool.eq_false_iff.mpr (fun hs => ?_)
  have hmem : (Char.ofNat n).toNat ∈ signCodes :=
    List.mem_map_of_mem (by simpa [isSign] using hs)
  rcases Unicode.toNat_ofNat_eq_or n with hn | hn
  · rw [hn] at hmem
    exact h hmem
  · rw [hn] at hmem
    exact absurd hmem (by decide)

section Tables

open Unicode

/-- The run moves nothing to a sign. -/
def avoidsSigns (r : CaseRun) : Bool :=
  signCodes.all fun n => n < r.image || r.image + (r.last - r.first) < n

/-- The expansion is not empty and holds no sign. -/
def expandsPlainly (e : Nat × List Nat) : Bool := !e.2.isEmpty && e.2.all fun n => n ∉ signCodes

theorem lowerRuns_avoidSigns : ∀ r ∈ lowerRuns, avoidsSigns r = true := by
  decide +kernel

theorem upperRuns_avoidSigns : ∀ r ∈ upperRuns, avoidsSigns r = true := by
  decide +kernel

theorem lowerExpansions_plain : ∀ e ∈ lowerExpansions, expandsPlainly e = true := by
  decide +kernel

theorem upperExpansions_plain : ∀ e ∈ upperExpansions, expandsPlainly e = true := by
  decide +kernel

/-- A case mapping whose tables leave the signs alone, and avoid them, is faithful. -/
theorem mapChar_faithful {es : List (Nat × List Nat)} {rs : List CaseRun}
    (hes : ∀ e ∈ es, expandsPlainly e = true) (hrs : ∀ r ∈ rs, avoidsSigns r = true)
    (hsigns : (signs.all fun c => mapChar es rs c = [c]) = true) (c : Char) :
    Faithful c (mapChar es rs c) := by
  cases hc : isSign c with
  -- a sign is checked by running the mapping on it, every other character through the tables
  | true =>
      have hsame := List.all_eq_true.mp hsigns c (by simpa [isSign] using hc)
      rw [of_decide_eq_true hsame]
      exact Faithful.refl c
  | false =>
      apply mapChar_induction (P := Faithful c)
      · intro _
        exact Faithful.refl c
      · intro image himage
        have hp := hes _ himage
        simp only [expandsPlainly, Bool.and_eq_true, Bool.not_eq_true', List.all_eq_true,
          decide_eq_true_eq] at hp
        refine Faithful.of_plain hc (by simpa using hp.1) ?_
        intro d hd
        obtain ⟨n, hn, rfl⟩ := List.mem_map.mp hd
        exact isSign_ofNat (hp.2 n hn)
      · intro r hr hmoves
        have hp := hrs r hr
        simp only [avoidsSigns, List.all_eq_true, Bool.or_eq_true, decide_eq_true_eq] at hp
        refine Faithful.of_plain hc (by simp) ?_
        intro d hd
        rw [List.mem_singleton.mp hd]
        refine isSign_ofNat (fun hm => ?_)
        have hout := hp _ hm
        obtain ⟨⟨hfirst, hlast⟩, -⟩ := CaseRun.moves_iff.mp hmoves
        rw [CaseRun.imageOf] at hout
        omega

theorem lowerChar_faithful (c : Char) : Faithful c (lowerChar c) :=
  mapChar_faithful lowerExpansions_plain lowerRuns_avoidSigns (by decide +kernel) c

theorem upperChar_faithful (c : Char) : Faithful c (upperChar c) :=
  mapChar_faithful upperExpansions_plain upperRuns_avoidSigns (by decide +kernel) c

end Tables

/-! ## The transforms -/

namespace Casing

open Unicode

theorem lowerSigma_faithful (afterCased : Bool) (rest : Text) :
    Faithful 'Σ' [lowerSigma afterCased rest] := by
  refine Faithful.of_plain (by decide) (by simp) ?_
  intro d hd
  rw [List.mem_singleton.mp hd]
  unfold lowerSigma
  split <;> decide

theorem keeps_lowerFrom (afterCased : Bool) (t : Text) : Keeps t (lowerFrom afterCased t) := by
  induction t generalizing afterCased with
  | nil => exact Keeps.refl []
  | cons c t ih =>
      simp only [lowerFrom]
      split
      · rename_i h
        subst h
        exact (lowerSigma_faithful afterCased t).keeps_append (ih _)
      · exact (lowerChar_faithful c).keeps_append (ih _)

theorem keeps_lower (t : Text) : Keeps t (lower t) := keeps_lowerFrom false t

theorem keeps_upper (t : Text) : Keeps t (upper t) := by
  induction t with
  | nil => exact Keeps.refl []
  | cons c t ih => exact (upperChar_faithful c).keeps_append ih

theorem keeps_capital (t : Text) : Keeps t (capital t) := by
  refine (keeps_lower t).trans ?_
  unfold capital
  cases lower t with
  | nil => exact Keeps.refl []
  | cons c cs => exact (upperChar_faithful c).keeps_append (Keeps.refl cs)

theorem keeps_raiseWords (before t : Text) : Keeps t (raiseWords before t) := by
  induction t generalizing before with
  | nil => exact Keeps.refl []
  | cons c t ih =>
      simp only [raiseWords]
      split
      · exact (upperChar_faithful c).keeps_append (ih _)
      · exact (Faithful.refl c).keeps_append (ih _)

theorem keeps_title (t : Text) : Keeps t (title t) :=
  (keeps_lower t).trans (keeps_raiseWords [] (lower t))

theorem keeps_lowerFirstWord (t : Text) : Keeps t (lowerFirstWord t) := by
  have h : Keeps (t.takeWhile opensText ++ t.dropWhile opensText) (lowerFirstWord t) :=
    (keeps_lower _).append (Keeps.refl _)
  rwa [List.takeWhile_append_dropWhile] at h

theorem keeps_apply (x : Command) (b : Bool) (t : Text) : Keeps t (apply x b t) := by
  cases x with
  | lower =>
      cases b with
      | true => exact keeps_lowerFirstWord t
      | false => exact keeps_lower t
  | upper => exact keeps_upper t
  | title => exact keeps_title t
  | capital => exact keeps_capital t

/-- No transform changes the skeleton of a text. -/
theorem skeleton_apply (x : Command) (b : Bool) (t : Text) :
    skeleton (apply x b t) = skeleton t := (keeps_apply x b t).skeleton_eq

theorem length_le_apply (x : Command) (b : Bool) (t : Text) :
    t.length ≤ (apply x b t).length := (keeps_apply x b t).length_le

end Casing

/-! ## What a skeleton knows -/

theorem eq_nil_of_skeleton {t : Text} (h : skeleton t = []) : t = [] := by
  cases t with
  | nil => rfl
  | cons c t =>
      rw [skeleton_cons] at h
      revert h
      cases signOf? c with
      | some d => simp
      | none => cases skeleton t with
        | nil => simp [frame]
        | cons x k => cases x <;> simp [frame]

theorem count_skeleton {c : Char} (hc : isSign c = true) (t : Text) :
    (skeleton t).count (some c) = t.count c := by
  have hframe : ∀ k : List (Option Char), (frame none k).count (some c) = k.count (some c) := by
    intro k
    match k with
    | [] => rfl
    | none :: _ => rfl
    | some _ :: _ => simp [frame]
  induction t with
  | nil => rfl
  | cons d t ih =>
      cases hd : isSign d with
      | true => simp [signOf?_of_sign hd, List.count_cons, ih]
      | false =>
          have hne : d ≠ c := by
            intro h
            rw [h, hc] at hd
            exact Bool.noConfusion hd
          rw [skeleton_cons, signOf?_of_plain hd, hframe, ih, List.count_cons_of_ne hne]

theorem infix_frame_none {u : Text} (hne : u ≠ []) (k : List (Option Char)) :
    u.map some <:+: frame none k ↔ u.map some <:+: k := by
  obtain ⟨c, u, rfl⟩ := List.exists_cons_of_ne_nil hne
  match k with
  | [] => simp [frame, List.infix_cons_iff]
  | none :: _ => simp [frame, List.infix_cons_iff]
  | some _ :: _ => simp [frame, List.infix_cons_iff]

theorem prefix_skeleton {u : Text} (hu : ∀ c ∈ u, isSign c = true) (t : Text) :
    u.map some <+: skeleton t ↔ u <+: t := by
  induction u generalizing t with
  | nil => simp
  | cons c u ih =>
      have hc : isSign c = true := hu c List.mem_cons_self
      have hrest := ih (fun d hd => hu d (List.mem_cons_of_mem _ hd))
      cases t with
      | nil => simp
      | cons d t =>
          cases hd : isSign d with
          | true => simp [signOf?_of_sign hd, List.cons_prefix_cons, hrest]
          | false =>
              have hne : c ≠ d := by
                intro h
                rw [h, hd] at hc
                exact Bool.noConfusion hc
              have hgap : ∀ k : List (Option Char), ¬ (c :: u).map some <+: frame none k := by
                intro k
                match k with
                | [] => simp [frame]
                | none :: _ => simp [frame]
                | some _ :: _ => simp [frame]
              simp only [skeleton_cons, signOf?_of_plain hd, hgap, List.cons_prefix_cons, hne,
                false_and]

theorem infix_skeleton {u : Text} (hu : ∀ c ∈ u, isSign c = true) (hne : u ≠ []) (t : Text) :
    u.map some <:+: skeleton t ↔ u <:+: t := by
  induction t with
  | nil => simp [hne]
  | cons e t ih =>
      have hprefix := prefix_skeleton hu (e :: t)
      rw [List.infix_cons_iff, ← hprefix, ← ih, skeleton_cons]
      cases he : isSign e with
      | true => rw [signOf?_of_sign he, frame_some, List.infix_cons_iff]
      | false =>
          rw [signOf?_of_plain he, infix_frame_none hne]
          refine (or_iff_right_of_imp fun h => ?_).symm
          rw [← infix_frame_none hne]
          exact h.isInfix

/-- The signs of a text, in their order, can be read off its skeleton. -/
theorem filterMap_skeleton (t : Text) : (skeleton t).filterMap id = t.filter isSign := by
  have hframe : ∀ k : List (Option Char), (frame none k).filterMap id = k.filterMap id := by
    intro k
    match k with
    | [] => rfl
    | none :: _ => rfl
    | some _ :: _ => rfl
  induction t with
  | nil => rfl
  | cons c t ih =>
      cases hc : isSign c with
      | true =>
          rw [skeleton_cons, signOf?_of_sign hc, frame_some, List.filter_cons_of_pos hc, ← ih]
          rfl
      | false =>
          rw [skeleton_cons, signOf?_of_plain hc, hframe, ih,
            List.filter_cons_of_neg (by simp [hc])]

theorem skeleton_append_sign {c : Char} (hc : isSign c = true) (p q : Text) :
    skeleton (p ++ c :: q) = skeleton p ++ some c :: skeleton q := by
  have hframe : ∀ (x : Option Char) (k l : List (Option Char)),
      frame x (k ++ some c :: l) = frame x k ++ some c :: l := by
    intro x k l
    match x, k with
    | some _, _ => simp
    | none, [] => rfl
    | none, none :: _ => rfl
    | none, some _ :: _ => rfl
  induction p with
  | nil => simp [signOf?_of_sign hc]
  | cons d p ih => rw [List.cons_append, skeleton_cons, ih, hframe, skeleton_cons]

theorem frame_eq_append_sign {x : Option Char} {c : Char} {m k l : List (Option Char)}
    (h : frame x m = k ++ some c :: l) :
    (k = [] ∧ x = some c ∧ m = l) ∨ ∃ k', m = k' ++ some c :: l ∧ frame x k' = k := by
  have hcons : x :: m = k ++ some c :: l →
      (k = [] ∧ x = some c ∧ m = l) ∨ ∃ k', m = k' ++ some c :: l ∧ x :: k' = k := by
    intro h
    rcases List.cons_eq_append_iff.mp h with ⟨rfl, heq⟩ | ⟨k', rfl, heq⟩
    · obtain ⟨rfl, rfl⟩ := List.cons.inj heq
      exact .inl ⟨rfl, rfl, rfl⟩
    · exact .inr ⟨k', heq, rfl⟩
  -- framing conses its entry but where two gaps meet, which make one
  match x, m with
  | some d, m =>
      rw [frame_some] at h
      simpa using hcons h
  | none, [] => simpa using hcons h
  | none, none :: m =>
      refine .inr ⟨k, h, ?_⟩
      cases k with
      | nil => simp [frame] at h
      | cons y k =>
          obtain ⟨rfl, -⟩ := List.cons.inj h
          rfl
  | none, some d :: m =>
      rcases hcons h with ⟨-, hx, -⟩ | ⟨k', hk', rfl⟩
      · exact absurd hx (by simp)
      · refine .inr ⟨k', hk', ?_⟩
        cases k' with
        | nil => rfl
        | cons y k' =>
            obtain ⟨rfl, -⟩ := List.cons.inj hk'
            rfl

theorem exists_cut_of_skeleton {c : Char} {t : Text} {k l : List (Option Char)}
    (h : skeleton t = k ++ some c :: l) :
    ∃ p q, t = p ++ c :: q ∧ skeleton p = k ∧ skeleton q = l := by
  induction t generalizing k with
  | nil => exact absurd h.symm (by simp)
  | cons d t ih =>
      rw [skeleton_cons] at h
      rcases frame_eq_append_sign h with ⟨rfl, hd, rfl⟩ | ⟨k', hk', rfl⟩
      · have hdc : d = c := by
          unfold signOf? at hd
          split at hd
          · exact Option.some.inj hd
          · exact absurd hd (by simp)
        exact ⟨[], t, by rw [hdc]; rfl, rfl, rfl⟩
      · obtain ⟨p, q, rfl, rfl, rfl⟩ := ih hk'
        exact ⟨d :: p, q, rfl, rfl, rfl⟩

/-- A word of signs in a text stands in every text of the same skeleton, with the same before it
and behind it. -/
theorem exists_word_of_skeleton {u : Text} (hu : ∀ c ∈ u, isSign c = true) (hne : u ≠ [])
    {t p q : Text} (h : skeleton t = skeleton (p ++ u ++ q)) :
    ∃ p' q', t = p' ++ u ++ q' ∧ skeleton p' = skeleton p ∧ skeleton q' = skeleton q := by
  induction u generalizing t p with
  | nil => exact absurd rfl hne
  | cons c u ih =>
      obtain ⟨hc, hu⟩ := List.forall_mem_cons.mp hu
      rw [List.append_assoc, List.cons_append, skeleton_append_sign hc] at h
      obtain ⟨p', r, rfl, hp, hr⟩ := exists_cut_of_skeleton h
      cases u with
      | nil => exact ⟨p', r, by simp, hp, hr⟩
      | cons d u =>
          -- the rest of the word stands right behind its first sign, since nothing has no skeleton
          obtain ⟨v, q', rfl, hv, hq⟩ := ih hu (by simp) (p := []) hr
          obtain rfl := eq_nil_of_skeleton hv
          exact ⟨p', q', by simp, hp, hq⟩

namespace Casing

variable (x : Command) (b : Bool) (t : Text)

theorem apply_eq_nil_iff : apply x b t = [] ↔ t = [] := by
  constructor
  · intro h
    apply eq_nil_of_skeleton
    rw [← skeleton_apply x b t, h, skeleton_nil]
  · rintro rfl
    exact eq_nil_of_skeleton (skeleton_apply x b [])

theorem count_apply {c : Char} (hc : isSign c = true) : (apply x b t).count c = t.count c := by
  rw [← count_skeleton hc, skeleton_apply, count_skeleton hc]

theorem mem_apply_iff {c : Char} (hc : isSign c = true) : c ∈ apply x b t ↔ c ∈ t := by
  rw [← List.count_pos_iff, count_apply x b t hc, List.count_pos_iff]

theorem infix_apply {u : Text} (hu : ∀ c ∈ u, isSign c = true) (hne : u ≠ []) :
    u <:+: apply x b t ↔ u <:+: t := by
  rw [← infix_skeleton hu hne, skeleton_apply, infix_skeleton hu hne]

/-- Whatever command a text is cased by, it keeps its skeleton. So no text is emptied that was not
empty, the signs stay what they were and in their order, and signs that stand next to each other do
so in the cased text too, at the same place among the others, and at no other place. -/
theorem skeleton_kept :
    skeleton (apply x b t) = skeleton t ∧ (apply x b t = [] ↔ t = []) ∧
      (apply x b t).filter isSign = t.filter isSign ∧
      ∀ u : Text, u ≠ [] → (∀ c ∈ u, isSign c = true) →
        (∀ p q, t = p ++ u ++ q → ∃ p' q', apply x b t = p' ++ u ++ q' ∧
          skeleton p' = skeleton p ∧ skeleton q' = skeleton q) ∧
        ∀ p' q', apply x b t = p' ++ u ++ q' → ∃ p q, t = p ++ u ++ q ∧
          skeleton p = skeleton p' ∧ skeleton q = skeleton q' := by
  have h := skeleton_apply x b t
  refine ⟨h, apply_eq_nil_iff x b t, ?_, fun u hne hu => ⟨fun p q ht => ?_, fun p' q' ht => ?_⟩⟩
  · rw [← filterMap_skeleton, h, filterMap_skeleton]
  · exact exists_word_of_skeleton hu hne (h.trans (congrArg skeleton ht))
  · exact exists_word_of_skeleton hu hne (h.symm.trans (congrArg skeleton ht))

/-- A sharp s becomes two letters, and a sigma takes its final form, before the closing brackets. -/
theorem skeleton_kept_closing_brackets :
    let t := "[[ß-ΑΣ\\]]\r\nL".toList
    let u := "]]\r\n".toList
    u ≠ [] ∧ (∀ c ∈ u, isSign c = true) ∧ t = "[[ß-ΑΣ\\".toList ++ u ++ "L".toList ∧
      apply .title false t = "[[SS-Ας\\]]\r\nL".toList ∧
      ∃ p' q', apply .title false t = p' ++ u ++ q' ∧
        skeleton p' = skeleton "[[ß-ΑΣ\\".toList ∧ skeleton q' = skeleton "L".toList := by
  intro t u
  have hu : ∀ c ∈ u, isSign c = true := List.all_eq_true.mp (by decide)
  have hcut : t = "[[ß-ΑΣ\\".toList ++ u ++ "L".toList := rfl
  obtain ⟨hwords, -⟩ := (skeleton_kept .title false t).2.2.2 u (by decide) hu
  exact ⟨by decide, hu, hcut, by decide +kernel, hwords _ _ hcut⟩

end Casing

end WikiCasing
