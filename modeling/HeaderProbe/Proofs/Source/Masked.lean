import HeaderProbe.Source.Function
import HeaderProbe.Source.Initializer
import HeaderProbe.Proofs.Mask.Projection
import HeaderProbe.Proofs.Source.Fragment

namespace HeaderProbe

def Span.extent (s : Span) : Nat × Nat × Nat :=
  (s.start, s.stop, s.line)

theorem count_newline_take_maskFrom (n k : Nat) (t : Text) :
    ((maskFrom n t).take k).count '\n' = (t.take k).count '\n' := by
  fun_induction maskFrom n t generalizing k with
  | case1 => rfl
  | case2 n c r ih => cases k <;> simp [List.count_cons, blankOut_eq_newline_iff, ih]
  | case3 c r n hc ih => cases k <;> simp [List.count_cons, blankOut_eq_newline_iff, ih]
  | case4 c r hc ih => cases k <;> simp [List.count_cons, ih]

theorem mask_text_of_findBody {keyword name t : Text} {s : Span}
    (hk : keyword.head?.any Text.isWordChar = true) (h : findBody keyword name t = some s) :
    mask s.text = (mask t).extract s.start s.stop := by
  obtain ⟨d, rfl⟩ := exists_definition h
  have hpiece : (mask t).extract d.before.length (d.before.length + d.piece.length) = d.piece := by
    rw [List.extract_eq_take_drop, Nat.add_sub_cancel_left, d.drop_mask, List.take_left' rfl]
  rw [d.cut_text, d.mask_cut hk]
  exact hpiece.symm

section

variable {t u : Text} (h : mask t = mask u)
include h

theorem count_newline_take_congr (n : Nat) : (t.take n).count '\n' = (u.take n).count '\n' := by
  rw [← count_newline_take_maskFrom 0 n t, ← count_newline_take_maskFrom 0 n u]
  exact congrArg (fun m : Text => (m.take n).count '\n') h

theorem extent_cut_congr (start stop : Nat) :
    (Span.cut t start stop).extent = (Span.cut u start stop).extent := by
  simp only [Span.extent, Span.cut, count_newline_take_congr h]

theorem findFunction_extent_congr (name : Text) :
    (findFunction name t).map Span.extent = (findFunction name u).map Span.extent := by
  simp only [findFunction, h, Option.map_map, Function.comp_def, extent_cut_congr h]

theorem findBody_extent_congr (keyword name : Text) :
    (findBody keyword name t).map Span.extent = (findBody keyword name u).map Span.extent := by
  simp only [findBody, h, Option.map_map, Function.comp_def, extent_cut_congr h]

theorem findInitializers_extent_congr (type field : Text) (wanted : Option Text) :
    (findInitializers type field t wanted).map Span.extent =
      (findInitializers type field u wanted).map Span.extent := by
  simp only [findInitializers, valueSpans, h, List.map_map, Function.comp_def, extent_cut_congr h]

theorem memberExtent?_congr (field : Text) : memberExtent? field t = memberExtent? field u := by
  simp only [memberExtent?, h]

theorem mask_text_congr {keyword name : Text} (hk : keyword.head?.any Text.isWordChar = true)
    {s s' : Span} (hs : findBody keyword name t = some s) (hs' : findBody keyword name u = some s') :
    s.extent = s'.extent ∧ mask s.text = mask s'.text := by
  have hextent : s.extent = s'.extent := by
    have := findBody_extent_congr h keyword name
    rw [hs, hs'] at this
    exact Option.some.inj this
  have hstart : s.start = s'.start := congrArg (·.1) hextent
  have hstop : s.stop = s'.stop := congrArg (·.2.1) hextent
  refine ⟨hextent, ?_⟩
  rw [mask_text_of_findBody hk hs, mask_text_of_findBody hk hs', h, hstart, hstop]

theorem findMember_extent_congr (type field : Text) :
    (findMember type field t).map Span.extent = (findMember type field u).map Span.extent := by
  have hfound : (findStruct type t).map Span.extent = (findStruct type u).map Span.extent :=
    findBody_extent_congr h _ type
  cases hs : findStruct type t with
  | none =>
    rw [hs] at hfound
    have hs' : findStruct type u = none := by simpa using hfound.symm
    simp [findMember, hs, hs']
  | some s =>
    rw [hs] at hfound
    obtain ⟨s', hs', -⟩ := Option.map_eq_some_iff.1 hfound.symm
    obtain ⟨hextent, hmask⟩ := mask_text_congr h (by decide) hs hs'
    have hstart : s.start = s'.start := congrArg (·.1) hextent
    cases hm : memberExtent? field s.text with
    | none => simp [findMember, hs, hs', hm, ← memberExtent?_congr hmask]
    | some e =>
      simp [findMember, hs, hs', hm, ← memberExtent?_congr hmask, hstart, extent_cut_congr h]

theorem locators_agree_on_equal_masks (name type field : Text) (wanted : Option Text) :
    (findFunction name t).map Span.extent = (findFunction name u).map Span.extent ∧
      (findStruct name t).map Span.extent = (findStruct name u).map Span.extent ∧
      (findEnum name t).map Span.extent = (findEnum name u).map Span.extent ∧
      (findMember type field t).map Span.extent = (findMember type field u).map Span.extent ∧
      (findInitializers type field t wanted).map Span.extent =
        (findInitializers type field u wanted).map Span.extent :=
  ⟨findFunction_extent_congr h name, findBody_extent_congr h _ name, findBody_extent_congr h _ name,
    findMember_extent_congr h type field, findInitializers_extent_congr h type field wanted⟩

end

def textHiding (comment literal : Text) : Text :=
  "struct s \x7b int n; /* ".toList ++ comment ++ " */ char c; \x7d;\nstruct s d = \x7b .c = f(\"".toList ++
    literal ++ "\") \x7d;\nint s(char *);".toList

theorem locators_agree_past_hidden_braces :
    let t := textHiding ['\x7d'] "\x7d,".toList
    let u := textHiding ['c'] ".c".toList
    mask t = mask u ∧
      (findFunction ['s'] t).map Span.extent = (findFunction ['s'] u).map Span.extent ∧
      (findStruct ['s'] t).map Span.extent = (findStruct ['s'] u).map Span.extent ∧
      (findEnum ['s'] t).map Span.extent = (findEnum ['s'] u).map Span.extent ∧
      (findMember ['s'] ['c'] t).map Span.extent = (findMember ['s'] ['c'] u).map Span.extent ∧
      (findInitializers ['s'] ['c'] t none).map Span.extent =
        (findInitializers ['s'] ['c'] u none).map Span.extent := by
  intro t u
  have h : mask t = mask u := by decide +kernel
  exact ⟨h, locators_agree_on_equal_masks h _ _ _ _⟩

example :
    (findMember ['s'] ['c'] (textHiding ['\x7d'] "\x7d,".toList)).map Span.extent = some (26, 33, 1) ∧
      (findInitializers ['s'] ['c'] (textHiding ['\x7d'] "\x7d,".toList) none).map Span.extent =
        [(57, 64, 2)] := by
  decide +kernel

end HeaderProbe
