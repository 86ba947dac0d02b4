import HeaderProbe.Proofs.Source.Define
import HeaderProbe.Proofs.Source.FunctionFragment
import HeaderProbe.Proofs.Source.Prototype
import Mathlib.Data.List.Chain

namespace HeaderProbe

open Text

/-- The part before a place of the line that the place is on, with the lines that it continues, as the mask
shows them. -/
structure ShownLine (x y : Text) : Prop where
  begins : x.getLast?.all (· == '\n') = true
  fresh : ¬ Continues x.reverse
  joined : ∀ u v, y = u ++ '\n' :: v → isContinued u.reverse = true

structure SourceLine (x l : Text) : Prop where
  begins : x.getLast?.all (· == '\n') = true
  fresh : x.dropLast.getLast? ≠ some '\\'
  joined : ∀ u v, l = u ++ '\n' :: v → u.getLast? = some '\\'

def OnPreprocessorLine (t : Text) (n : Nat) : Prop :=
  ∃ x l, t.take n = x ++ l ∧ SourceLine x l ∧ ∃ w r, (mask t).extract x.length n = w ++ '#' :: r ∧
    (w ++ ['#']).IsChain fun c d => isBlank c = true ∨ c = '\\' ∧ d = '\n'

inductive Strays (t : Text) (n : Nat) : Prop where
  | hidden {x y : Text} (hsplit : (mask t).take n = (x ++ ['\n']) ++ y) (hline : ShownLine (x ++ ['\n']) y)
      (hback : (t.take x.length).getLast? = some '\\') (hhash : (skipBlanks y).head? ≠ some '#') :
      Strays t n
  | spaced {x u v : Text} (hsplit : (mask t).take n = x ++ (u ++ '\n' :: v))
      (hline : ShownLine x (u ++ '\n' :: v)) (hback : (t.take (x ++ u).length).getLast? ≠ some '\\')
      (hhash : (skipBlanks (u ++ '\n' :: v)).head? ≠ some '#') : Strays t n
  | blank {x y : Text} (hsplit : (mask t).take n = x ++ y) (hline : ShownLine x y)
      (hhead : (skipBlanks y).head? = some '\\') : Strays t n

theorem isContinued_append_break (s b : Text) : isContinued (s ++ '\n' :: b) = isContinued s := by
  have hcut : (s ++ '\n' :: b).takeWhile (fun c => decide (c ≠ '\n')) =
      s.takeWhile fun c => decide (c ≠ '\n') := by
    have hstop : ('\n' :: b).takeWhile (fun c => decide (c ≠ '\n')) = [] := rfl
    rw [List.takeWhile_append, hstop, List.append_nil]
    split
    · next hlen => rw [(List.takeWhile_prefix _).eq_of_length hlen]
    · rfl
  rw [isContinued, hcut, isContinued]

namespace ShownLine

variable {x y : Text}

theorem isContinued_append (h : ShownLine x y) (u : Text) :
    isContinued (x ++ u).reverse = isContinued u.reverse := by
  have hbegins := h.begins
  rw [List.reverse_append]
  cases hx : x.reverse with
  | nil => rw [List.append_nil]
  | cons c r =>
    rw [← List.head?_reverse, hx] at hbegins
    obtain rfl : c = '\n' := by simpa using hbegins
    exact isContinued_append_break u.reverse r

theorem nil_iff : ShownLine x [] ↔ x.getLast?.all (· == '\n') = true ∧ ¬ Continues x.reverse := by
  constructor
  · intro h
    exact ⟨h.begins, h.fresh⟩
  · rintro ⟨hbegins, hfresh⟩
    exact ⟨hbegins, hfresh, fun u v h => by simp at h⟩

theorem concat_iff {c : Char} :
    ShownLine x (y ++ [c]) ↔ ShownLine x y ∧ (c = '\n' → isContinued y.reverse = true) := by
  constructor
  · rintro ⟨hbegins, hfresh, hjoined⟩
    refine ⟨⟨hbegins, hfresh, fun u v h => hjoined u (v ++ [c]) (by rw [h]; simp)⟩, ?_⟩
    rintro rfl
    exact hjoined y [] rfl
  · rintro ⟨h, hlast⟩
    refine ⟨h.begins, h.fresh, fun u v huv => ?_⟩
    rcases List.eq_nil_or_concat v with rfl | ⟨v, d, rfl⟩
    · obtain ⟨rfl, hc⟩ := List.append_inj' huv rfl
      exact hlast (List.cons.inj hc).1
    · have hends : y ++ [c] = u ++ '\n' :: v ++ [d] := by
        rw [huv]
        simp
      exact h.joined u v (List.append_inj' hends rfl).1

theorem logicalHead_eq (h : ShownLine x y) : logicalHead (x ++ y).reverse = y := by
  induction y using List.reverseRecOn with
  | nil =>
    rw [List.append_nil]
    cases hx : x.reverse with
    | nil => rfl
    | cons c r =>
      have hbegins := h.begins
      have hfresh := h.fresh
      rw [← List.head?_reverse, hx] at hbegins
      obtain rfl : c = '\n' := by simpa using hbegins
      refine logicalHead_newline ?_
      by_contra hr
      exact hfresh (by rw [hx]; exact ⟨rfl, by simpa using hr⟩)
  | append_singleton y c ih =>
    obtain ⟨hy, hlast⟩ := concat_iff.1 h
    rw [← List.append_assoc, List.reverse_concat]
    by_cases hc : c = '\n'
    · subst hc
      have hcontinued := hlast rfl
      rw [← hy.isContinued_append] at hcontinued
      rw [logicalHead_continued hcontinued, ih hy]
    · rw [logicalHead_cons hc, ih hy]

theorem exists_shown (s : Text) :
    ∃ x, s = x ++ logicalHead s.reverse ∧ ShownLine x (logicalHead s.reverse) := by
  induction s using List.reverseRecOn with
  | nil => exact ⟨[], rfl, nil_iff.2 ⟨rfl, fun h => by cases h.1⟩⟩
  | append_singleton s c ih =>
    obtain ⟨x, hs, h⟩ := ih
    rw [List.reverse_concat]
    by_cases hc : c = '\n'
    · subst hc
      cases hcontinued : isContinued s.reverse with
      | false =>
        rw [logicalHead_newline hcontinued]
        refine ⟨s ++ ['\n'], by simp, nil_iff.2 ⟨by simp, ?_⟩⟩
        rintro ⟨-, htail⟩
        rw [List.reverse_concat, List.tail_cons, hcontinued] at htail
        cases htail
      | true =>
        rw [logicalHead_continued hcontinued]
        generalize logicalHead s.reverse = y at hs h
        subst hs
        rw [h.isContinued_append] at hcontinued
        exact ⟨x, by simp, concat_iff.2 ⟨h, fun _ => hcontinued⟩⟩
    · rw [logicalHead_cons hc]
      generalize logicalHead s.reverse = y at hs h
      subst hs
      exact ⟨x, by simp, concat_iff.2 ⟨h, fun hc' => absurd hc' hc⟩⟩

end ShownLine

theorem exists_break {s s' a b : Text} (h : s.map (· == '\n') = s'.map (· == '\n'))
    (hs : s = a ++ '\n' :: b) : ∃ a' b', s' = a' ++ '\n' :: b' ∧ a'.length = a.length := by
  rw [hs, List.map_append, List.map_cons] at h
  obtain ⟨a', r, rfl, ha, hr⟩ := List.map_eq_append_iff.1 h.symm
  obtain ⟨c, b', rfl, hc, -⟩ := List.map_eq_cons_iff.1 hr
  obtain rfl : c = '\n' := by simpa using hc
  exact ⟨a', b', rfl, by simpa using congrArg List.length ha⟩

theorem map_newline_take_mask (t : Text) (n : Nat) :
    ((mask t).take n).map (· == '\n') = (t.take n).map (· == '\n') := by
  rw [List.map_take, List.map_take, mask, map_newline_maskFrom]

theorem exists_of_later_cut {x y a b : Text} (h : x ++ y = a ++ b) (hle : x.length ≤ a.length) :
    ∃ u, a = x ++ u ∧ y = u ++ b := by
  obtain ⟨u, rfl⟩ := List.prefix_of_prefix_length_le (List.prefix_append x y) ⟨b, h.symm⟩ hle
  exact ⟨u, rfl, List.append_cancel_left (by rw [h, List.append_assoc])⟩

theorem exists_of_getLast?_all {x : Text} (hne : 0 < x.length) (h : x.getLast?.all (· == '\n') = true) :
    ∃ a, x = a ++ ['\n'] := by
  rcases List.eq_nil_or_concat x with rfl | ⟨a, c, rfl⟩
  · cases hne
  · obtain rfl : c = '\n' := by simpa using h
    exact ⟨a, by simp⟩

theorem take_of_take_eq {t a b : Text} {n : Nat} (h : t.take n = a ++ b) : t.take a.length = a :=
  (List.prefix_iff_eq_take.1 ((List.prefix_append a b).trans (h ▸ List.take_prefix n t))).symm

theorem Strays.inDirective {t : Text} {n : Nat} (h : Strays t n) :
    inDirective ((mask t).take n).reverse = false := by
  have hcode {x y : Text} (hsplit : (mask t).take n = x ++ y) (hline : ShownLine x y)
      (hhash : (skipBlanks y).head? ≠ some '#') :
      HeaderProbe.inDirective ((mask t).take n).reverse = false := by
    rw [HeaderProbe.inDirective, hsplit, hline.logicalHead_eq]
    simpa using hhash
  cases h with
  | hidden hsplit hline _ hhash => exact hcode hsplit hline hhash
  | spaced hsplit hline _ hhash => exact hcode hsplit hline hhash
  | blank hsplit hline hhead => exact hcode hsplit hline (by rw [hhead]; decide)

theorem head?_of_chain {w r : Text} (hw : (w ++ ['#']).IsChain fun c d => isBlank c = true ∨ c = '\\' ∧ d = '\n')
    (hhash : (skipBlanks (w ++ '#' :: r)).head? ≠ some '#') :
    (skipBlanks (w ++ '#' :: r)).head? = some '\\' := by
  cases hskip : skipBlanks w with
  | nil =>
    rw [skipBlanks_append (allBlank_of_skipBlanks hskip), skipBlanks_cons rfl] at hhash
    exact absurd rfl hhash
  | cons c w' =>
    obtain ⟨hc, b, -, rfl⟩ := skipBlanks_eq_cons_iff.1 hskip
    rw [skipBlanks_append_of_cons hskip]
    obtain ⟨d, z, hz⟩ : ∃ d z, w' ++ ['#'] = d :: z := List.exists_cons_of_ne_nil (by simp)
    rw [List.append_assoc, List.cons_append, hz, List.isChain_append_cons_cons] at hw
    rcases hw.2.1 with hblank | ⟨rfl, -⟩
    · rw [hc] at hblank
      cases hblank
    · rfl

theorem inDirective_eq_false_iff {t : Text} {n : Nat} (h : OnPreprocessorLine t n) :
    inDirective ((mask t).take n).reverse = false ↔ Strays t n := by
  refine ⟨fun hcode => ?_, Strays.inDirective⟩
  obtain ⟨x', l, hsplit', hsource, w, r, hextract, hw⟩ := h
  obtain ⟨x, hsplit, hline⟩ := ShownLine.exists_shown ((mask t).take n)
  rw [inDirective, beq_eq_false_iff_ne] at hcode
  generalize logicalHead ((mask t).take n).reverse = y at hsplit hline hcode
  have hbreaks := map_newline_take_mask t n
  rcases lt_trichotomy x.length x'.length with hlt | heq | hlt
  · obtain ⟨a, rfl⟩ := exists_of_getLast?_all (by omega) hsource.begins
    rw [List.append_assoc, List.singleton_append] at hsplit'
    obtain ⟨a', b, hmask, hlen⟩ := exists_break hbreaks.symm hsplit'
    rw [List.length_append, List.length_singleton] at hlt
    obtain ⟨u, rfl, rfl⟩ := exists_of_later_cut (hsplit.symm.trans hmask) (by omega)
    refine .spaced hsplit hline ?_ hcode
    rw [hlen, take_of_take_eq hsplit']
    have hfresh := hsource.fresh
    rwa [List.dropLast_concat] at hfresh
  · have hshown : y = w ++ '#' :: r := by
      rw [← hextract, List.extract_eq_take_drop, ← List.drop_take, ← heq, hsplit, List.drop_left]
    rw [hshown] at hcode
    exact .blank hsplit hline (hshown ▸ head?_of_chain hw hcode)
  · obtain ⟨a, rfl⟩ := exists_of_getLast?_all (by omega) hline.begins
    have hbreak : (mask t).take n = a ++ '\n' :: y := by rw [hsplit]; simp
    obtain ⟨a', b, hsource', hlen⟩ := exists_break hbreaks hbreak
    rw [List.length_append, List.length_singleton] at hlt
    obtain ⟨u, rfl, rfl⟩ := exists_of_later_cut (hsplit'.symm.trans hsource') (by omega)
    refine .hidden hsplit hline ?_ hcode
    rw [← hlen, take_of_take_eq hsource', List.getLast?_append, hsource.joined u b rfl]
    rfl

theorem macro_body_unfound_iff {name t : Text}
    (hlines : ∀ u v, Mention name (mask t) u v → OnPreprocessorLine t u.length) :
    findFunction name t = none ↔
      ∀ o ∈ (Place.start (mask t)).occurrences (callShape name),
        declaresName o.value o.place.before = true →
          Bracket.paren.afterClose ('(' :: o.rest) ≠ none → ¬ Strays t o.place.offset := by
  have hplace {o : Occurrence Bool} (ho : o ∈ (Place.start (mask t)).occurrences (callShape name)) :
      inDirective o.place.before = false ↔ Strays t o.place.offset := by
    obtain ⟨v, hmention⟩ := mention_of_callShape (Place.shape_of_mem ho)
    have htext : o.place.before.reverse ++ o.place.after = mask t := Place.text_of_mem ho
    have htake : (mask t).take o.place.offset = o.place.before.reverse := by
      rw [← htext, Place.offset, ← List.length_reverse, List.take_left]
    rw [htext] at hmention
    have hon := hlines _ _ hmention
    rw [List.length_reverse] at hon
    have hstrays := inDirective_eq_false_iff (t := t) (n := o.place.offset) hon
    rwa [htake, List.reverse_reverse] at hstrays
  simp only [findFunction, Option.map_eq_none_iff, List.findSome?_eq_none_iff]
  refine forall₂_congr fun o ho => ?_
  rw [← hplace ho, ← not_iff_not, ← ne_eq, functionExtent?_ne_none_iff]
  tauto

def commentedMacro : Text :=
  "#define A /* x \\\n */ int foo(int);\n".toList

theorem commented_macro_strays :
    findFunction "foo".toList commentedMacro = some ⟨"int foo(int);".toList, 21, 34, 2⟩ ∧
      ∃ o ∈ (Place.start (mask commentedMacro)).occurrences (callShape "foo".toList),
        declaresName o.value o.place.before = true ∧ Strays commentedMacro o.place.offset := by
  have hfound : findFunction "foo".toList commentedMacro = some ⟨"int foo(int);".toList, 21, 34, 2⟩ := by
    decide +kernel
  have honly : ∀ u v, Mention "foo".toList (mask commentedMacro) u v → u = (mask commentedMacro).take 25 := by
    decide +kernel
  have hlines : ∀ u v, Mention "foo".toList (mask commentedMacro) u v →
      OnPreprocessorLine commentedMacro u.length := by
    intro u v hmention
    obtain rfl := honly u v hmention
    exact ⟨[], commentedMacro.take 25, by decide +kernel,
      ⟨by decide +kernel, by decide +kernel, by decide +kernel⟩, [],
      "define A       \n    int ".toList, by decide +kernel, by decide +kernel⟩
  refine ⟨hfound, ?_⟩
  by_contra hnone
  have hunfound := (macro_body_unfound_iff hlines).2 fun o ho hdeclares _ hstrays =>
    hnone ⟨o, ho, hdeclares, hstrays⟩
  rw [hfound] at hunfound
  cases hunfound

def quotedMacro : Text :=
  "#define A \"x\\\n\" int foo(int);\n".toList

theorem quoted_macro_found :
    (∀ u v, Mention "foo".toList (mask quotedMacro) u v → OnPreprocessorLine quotedMacro u.length) ∧
      findFunction "foo".toList quotedMacro = some ⟨"int foo(int);".toList, 16, 29, 2⟩ := by
  have honly : ∀ u v, Mention "foo".toList (mask quotedMacro) u v → u = (mask quotedMacro).take 20 := by
    decide +kernel
  refine ⟨fun u v hmention => ?_, by decide +kernel⟩
  obtain rfl := honly u v hmention
  exact ⟨[], quotedMacro.take 20, by decide +kernel,
    ⟨by decide +kernel, by decide +kernel, by decide +kernel⟩, [],
    "define A    \n  int ".toList, by decide +kernel, by decide +kernel⟩

end HeaderProbe
