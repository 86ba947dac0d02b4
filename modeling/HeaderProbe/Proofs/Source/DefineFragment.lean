import HeaderProbe.Proofs.Mask.Join
import HeaderProbe.Proofs.Source.Define
import HeaderProbe.Proofs.Source.Fragment

namespace HeaderProbe

open Text

theorem opensHidden_of_isWordChar {c : Char} (hc : isWordChar c = true) : opensHidden c = false := by
  have hne {d : Char} (hd : isWordChar d = false) : (c == d) = false := beq_false_of_ne (isWordChar_ne hc hd)
  rw [opensHidden, hne (by decide +kernel), hne (by decide +kernel), hne (by decide +kernel)]
  rfl

theorem mask_behind_word {t shown rest : Text} {c : Char} (hc : isWordChar c = true)
    (h : mask t = shown ++ c :: rest) :
    ∃ a b, t = a ++ c :: b ∧ a.length = shown.length ∧ mask (a ++ [c]) = shown ++ [c] ∧ mask b = rest := by
  have hblank := isBlank_of_isWordChar hc
  have hopens := opensHidden_of_isWordChar hc
  have hget : (mask t)[shown.length]? = some c := by simp [h]
  have hdrop := mask_drop hget hblank
  rw [h, List.drop_left] at hdrop
  obtain ⟨b, hb⟩ := List.head?_eq_some_iff.1
    ((head?_mask_eq_some_iff hblank hopens).1 (by rw [← hdrop]; rfl))
  have hlen : (t.take shown.length).length = shown.length := by
    have hlt := (List.getElem?_eq_some_iff.1 hget).1
    rw [length_mask] at hlt
    rw [List.length_take]
    omega
  have ht : t = t.take shown.length ++ c :: b := by rw [← hb, List.take_append_drop]
  have hsplit := mask_split (a := t.take shown.length) (b := b) hblank hopens (by rw [← ht, hlen, hget])
  rw [← ht, h, ← List.singleton_append, ← List.append_assoc] at hsplit
  obtain ⟨hfirst, hrest⟩ := List.append_inj hsplit (by simp [hlen])
  exact ⟨t.take shown.length, b, ht, hlen, hfirst.symm, hrest.symm⟩

namespace FoundDefine

variable {name t : Text}

theorem findDefine_text (d : FoundDefine name t) (hname : IsWord name) :
    findDefine name d.text = some ⟨d.text, 0, d.text.length, 1⟩ ↔
      (defineShape name (Place.start (mask d.text))).isSome = true := by
  constructor
  · intro h
    simp only [findDefine, Option.bind_eq_bind, Option.bind_eq_some_iff, Option.pure_def,
      Option.some.injEq] at h
    obtain ⟨o, ho, hspan⟩ := h
    have hmem := List.mem_of_head? ho
    have hstart : o.place.before.length = 0 := congrArg Span.start hspan
    have hplace : o.place = Place.start (mask d.text) := by
      have htext : o.place.before.reverse ++ o.place.after = mask d.text := Place.text_of_mem hmem
      obtain ⟨⟨before, after⟩, _, rest⟩ := o
      obtain rfl : before = [] := List.length_eq_zero_iff.1 hstart
      rw [Place.start, ← htext]
      rfl
    rw [← hplace, Place.shape_of_mem hmem]
    rfl
  · intro h
    obtain ⟨⟨_, r⟩, hshape⟩ := Option.isSome_iff_exists.1 h
    obtain ⟨later, hocc⟩ := Place.occurrences_eq_cons hshape
    obtain ⟨s, hs, hstart⟩ : ∃ s, findDefine name d.text = some s ∧ s.start = 0 := by
      rw [findDefine, hocc]
      exact ⟨_, rfl, rfl⟩
    obtain ⟨e, rfl⟩ := exists_found_define hname hs
    have hbefore : e.before = [] := List.length_eq_zero_iff.1 hstart
    have hsplit := e.text_split
    rw [hbefore, List.nil_append] at hsplit
    have hafter : e.after = [] := by
      rcases e.ends with hnil | ⟨x, hx, hend⟩
      · exact hnil
      · rw [hx] at hsplit
        have hjoined := d.endsIn_of_cut hname hsplit
        rw [text, List.reverse_append, hend] at hjoined
        cases hjoined
    rw [hafter, List.append_nil] at hsplit
    rw [hs, span, hbefore, ← hsplit, List.length_nil, Nat.zero_add, cut_whole]

theorem defineShape_text (d : FoundDefine name t) (hname : IsWord name)
    (h : (mask t).drop d.before.length = mask (t.drop d.before.length)) :
    (defineShape name (Place.start (mask d.text))).isSome = true := by
  obtain ⟨-, hedge, s, hopening, hs⟩ := (defineShape_eq_some_iff hname).1 d.shape
  obtain rfl : d.shown = s := List.append_cancel_right hs
  obtain ⟨c, hlast, hc⟩ := hname.exists_getLast?
  obtain ⟨shown, hshown⟩ : ∃ shown, d.shown = shown ++ [c] := by
    obtain ⟨a, b, e, -, -, -, -, hsplit⟩ := hopening
    obtain ⟨x, hx⟩ := List.getLast?_eq_some_iff.1 hlast
    generalize "define".toList = keyword at hsplit
    exact ⟨a ++ '#' :: (b ++ (keyword ++ (e ++ x))), by rw [hsplit, hx]; simp⟩
  have hdrop : t.drop d.before.length = d.text ++ d.after := by
    have hsplit := congrArg (List.drop d.before.length) d.text_split
    rwa [List.drop_left] at hsplit
  have hmask : mask (d.text ++ d.after) = shown ++ c :: d.rest := by
    rw [← hdrop, ← h, d.mask_eq, d.length_before, List.drop_left' (by simp), hshown]
    simp
  obtain ⟨a, b, hsplit, hlen, hfirst, hrest⟩ := mask_behind_word hc hmask
  obtain ⟨hopen, rfl⟩ : d.opening = a ++ [c] ∧ d.line ++ d.after = b := by
    rw [text, List.append_assoc, ← List.singleton_append, ← List.append_assoc a] at hsplit
    exact List.append_inj hsplit (by rw [d.length_opening, hshown]; simp [hlen])
  have htext : d.text = a ++ c :: d.line := by rw [text, hopen]; simp
  have hvisible : (mask d.text)[a.length]? = some c := by
    refine getElem?_maskFrom_of_append (b := d.after) ?_ (isBlank_of_isWordChar hc) (by rw [htext]; simp)
    change (mask (d.text ++ d.after))[a.length]? = some c
    rw [hmask, hlen]
    simp
  have halone : mask d.text = d.shown ++ mask d.line := by
    rw [htext] at hvisible ⊢
    rw [mask_split (isBlank_of_isWordChar hc) (opensHidden_of_isWordChar hc) hvisible, hfirst, hshown]
  refine Option.isSome_iff_exists.2 ⟨((), mask d.line), (defineShape_eq_some_iff hname).2
    ⟨rfl, ?_, d.shown, hopening, halone⟩⟩
  by_contra hword
  obtain ⟨e, he, heword⟩ := (Option.any_eq_true _ _).1 (by simpa using hword)
  have hshows := (head?_mask_eq_some_iff (isBlank_of_isWordChar heword) (opensHidden_of_isWordChar heword)
    (t := d.line ++ d.after)).2 (by
      rw [List.head?_append, (head?_mask_eq_some_iff (isBlank_of_isWordChar heword)
        (opensHidden_of_isWordChar heword)).1 he]
      rfl)
  rw [hrest] at hshows
  rw [hshows, Option.any_some, heword] at hedge
  cases hedge

end FoundDefine

end HeaderProbe
