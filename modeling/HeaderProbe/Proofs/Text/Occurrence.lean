import HeaderProbe.Text.Place
import Mathlib.Data.List.Basic
import Mathlib.Data.Option.Basic

namespace HeaderProbe.Place

variable {α : Type} {shape : Shape α}

theorem text_start (t : Text) : (start t).text = t :=
  rfl

theorem text_of (t : Text) (n : Nat) : (Place.of t n).text = t := by
  simp [Place.of, text]

theorem length_text (p : Place) : p.text.length = p.offset + p.after.length := by
  simp [text, offset]

theorem offset_add_reach {p : Place} {rest : Text} (h : rest.length ≤ p.after.length) :
    p.offset + p.reach rest = p.text.length - rest.length := by
  rw [length_text, reach]
  omega

theorem exists_between {p q : Place} (h : p.text = q.text) (hle : p.offset ≤ q.offset) :
    ∃ x, q.before = x.reverse ++ p.before ∧ p.after = x ++ q.after := by
  have hlength : p.before.reverse.length ≤ q.before.reverse.length := by
    simpa only [offset, List.length_reverse] using hle
  obtain ⟨x, hx⟩ := List.prefix_of_prefix_length_le ⟨p.after, h⟩ ⟨q.after, rfl⟩ hlength
  rw [text, text, ← hx, List.append_assoc, List.append_cancel_left_eq] at h
  refine ⟨x, ?_, h⟩
  rw [← List.reverse_reverse q.before, ← hx, List.reverse_append, List.reverse_reverse]

theorem mem_occurrences_go {n : Nat} {b s : Text} {o : Occurrence α}
    (h : o ∈ occurrences.go shape n b s) :
    o.place.text = b.reverse ++ s ∧ shape o.place = some (o.value, o.rest) := by
  fun_induction occurrences.go shape n b s with
  | case1 b =>
    obtain ⟨⟨a, rest⟩, ha, rfl⟩ := List.mem_map.1 h
    exact ⟨rfl, Option.mem_toList.1 ha⟩
  | case2 => cases h
  | case3 b c r hs ih => simpa using ih h
  | case4 b c r a rest hs ih =>
    rcases List.mem_cons.1 h with rfl | h
    · exact ⟨rfl, hs⟩
    · simpa using ih h
  | case5 n b c r ih => simpa using ih h

theorem text_of_mem {p : Place} {o : Occurrence α} (h : o ∈ p.occurrences shape) :
    o.place.text = p.text :=
  (mem_occurrences_go h).1

theorem shape_of_mem {p : Place} {o : Occurrence α} (h : o ∈ p.occurrences shape) :
    shape o.place = some (o.value, o.rest) :=
  (mem_occurrences_go h).2

theorem occurrences_eq_cons {p : Place} {a : α} {rest : Text} (h : shape p = some (a, rest)) :
    ∃ later, p.occurrences shape = ⟨p, a, rest⟩ :: later := by
  obtain ⟨b, s⟩ := p
  cases s with
  | nil => exact ⟨[], by simp [occurrences, occurrences.go, h]⟩
  | cons c r => exact ⟨_, by simp only [occurrences, occurrences.go, h]; rfl⟩

theorem occurrences_append_of_none (b : Text) {a : Text} (s : Text)
    (h : ∀ u v, a = u ++ v → v ≠ [] → shape ⟨u.reverse ++ b, v ++ s⟩ = none) :
    occurrences shape ⟨b, a ++ s⟩ = occurrences shape ⟨a.reverse ++ b, s⟩ := by
  induction a generalizing b with
  | nil => rfl
  | cons c a ih =>
    have hfirst : shape ⟨b, c :: (a ++ s)⟩ = none := h [] (c :: a) rfl (by simp)
    have hstep : occurrences shape ⟨b, c :: (a ++ s)⟩ = occurrences shape ⟨c :: b, a ++ s⟩ := by
      simp only [occurrences, occurrences.go, hfirst]
    rw [List.cons_append, hstep, ih, List.reverse_cons, List.append_assoc]
    · rfl
    · rintro u v rfl hv
      simpa using h (c :: u) v rfl hv

theorem add_le_offset_of_mem_go {n : Nat} {b s : Text} {o : Occurrence α}
    (h : o ∈ occurrences.go shape n b s) : b.length + n ≤ o.place.offset := by
  fun_induction occurrences.go shape n b s with
  | case1 b =>
    obtain ⟨_, _, rfl⟩ := List.mem_map.1 h
    exact Nat.le_refl _
  | case2 => cases h
  | case3 b c r hs ih => exact Nat.le_of_succ_le (ih h)
  | case4 b c r a rest hs ih =>
    rcases List.mem_cons.1 h with rfl | h
    · exact Nat.le_refl _
    · have hlater := ih h
      rw [List.length_cons] at hlater
      omega
  | case5 n b c r ih =>
    have hlater := ih h
    rw [List.length_cons] at hlater
    omega

theorem length_le_offset_of_mem_go {n : Nat} {b s : Text} {o : Occurrence α}
    (h : o ∈ occurrences.go shape n b s) : b.length ≤ o.place.offset :=
  Nat.le_trans (Nat.le_add_right b.length n) (add_le_offset_of_mem_go h)

theorem pairwise_occurrences (shape : Shape α) (p : Place) :
    (p.occurrences shape).Pairwise fun o o' => o.place.offset < o'.place.offset := by
  have hgo (n : Nat) (b s : Text) : (occurrences.go shape n b s).Pairwise
      fun o o' => o.place.offset < o'.place.offset := by
    fun_induction occurrences.go shape n b s with
    | case1 b => cases shape ⟨b, []⟩ <;> simp
    | case2 => exact .nil
    | case3 b c r hs ih => exact ih
    | case4 b c r a rest hs ih => exact .cons (fun o ho => length_le_offset_of_mem_go ho) ih
    | case5 n b c r ih => exact ih
  exact hgo 0 p.before p.after

theorem pairwise_stop_le_offset (shape : Shape α) (p : Place) :
    (p.occurrences shape).Pairwise fun o o' => o.stop ≤ o'.place.offset := by
  have hgo (n : Nat) (b s : Text) : (occurrences.go shape n b s).Pairwise
      fun o o' => o.stop ≤ o'.place.offset := by
    fun_induction occurrences.go shape n b s with
    | case1 b => cases shape ⟨b, []⟩ <;> simp
    | case2 => exact .nil
    | case3 b c r hs ih => exact ih
    | case4 b c r a rest hs ih =>
      refine .cons (fun o ho => ?_) ih
      have hlater := add_le_offset_of_mem_go ho
      simp only [Occurrence.stop, offset, reach, List.length_cons] at hlater ⊢
      omega
    | case5 n b c r ih => exact ih
  exact hgo 0 p.before p.after

theorem exists_occurrence_go {n : Nat} {b s u v : Text} (hs : s = u ++ v)
    (h : shape ⟨u.reverse ++ b, v⟩ ≠ none) (hn : n ≤ u.length) :
    ∃ o ∈ occurrences.go shape n b s,
      o.place = ⟨u.reverse ++ b, v⟩ ∨
        o.place.offset < b.length + u.length ∧ b.length + u.length < o.stop := by
  fun_induction occurrences.go shape n b s generalizing u with
  | case1 b =>
    obtain ⟨rfl, rfl⟩ := List.append_eq_nil_iff.1 hs.symm
    obtain ⟨⟨a, rest⟩, hshape⟩ := Option.ne_none_iff_exists'.1 h
    rw [List.reverse_nil, List.nil_append] at hshape
    exact ⟨⟨⟨b, []⟩, a, rest⟩, by simp [hshape], .inl rfl⟩
  | case2 n b =>
    rw [(List.append_eq_nil_iff.1 hs.symm).1] at hn
    cases hn
  | case3 b c r hfirst ih =>
    cases u with
    | nil =>
      subst hs
      exact absurd hfirst h
    | cons d u =>
      rw [List.cons_append, List.cons.injEq] at hs
      obtain ⟨rfl, rfl⟩ := hs
      rw [List.reverse_cons, List.append_assoc] at h ⊢
      obtain ⟨o, ho, hplace⟩ := ih rfl h (Nat.zero_le _)
      refine ⟨o, ho, ?_⟩
      rwa [List.length_cons, Nat.add_assoc, Nat.add_comm 1] at hplace
  | case4 b c r a rest hfirst ih =>
    cases u with
    | nil =>
      subst hs
      exact ⟨_, List.mem_cons_self .., .inl rfl⟩
    | cons d u =>
      rw [List.cons_append, List.cons.injEq] at hs
      obtain ⟨rfl, rfl⟩ := hs
      rw [List.reverse_cons, List.append_assoc] at h ⊢
      by_cases hinside : u.length < (u ++ v).length - rest.length
      · refine ⟨_, List.mem_cons_self .., .inr ⟨?_, ?_⟩⟩
        · simp only [offset, List.length_cons]
          omega
        · simp only [Occurrence.stop, offset, reach, List.length_cons]
          omega
      · obtain ⟨o, ho, hplace⟩ := ih rfl h (by omega)
        refine ⟨o, List.mem_cons_of_mem _ ho, ?_⟩
        rwa [List.length_cons, Nat.add_assoc, Nat.add_comm 1] at hplace
  | case5 n b c r ih =>
    cases u with
    | nil => cases hn
    | cons d u =>
      rw [List.cons_append, List.cons.injEq] at hs
      obtain ⟨rfl, rfl⟩ := hs
      rw [List.reverse_cons, List.append_assoc] at h ⊢
      obtain ⟨o, ho, hplace⟩ := ih rfl h (Nat.le_of_succ_le_succ hn)
      refine ⟨o, ho, ?_⟩
      rwa [List.length_cons, Nat.add_assoc, Nat.add_comm 1] at hplace

theorem exists_occurrence {p : Place} (h : shape p ≠ none) :
    ∃ o ∈ (start p.text).occurrences shape,
      o.place = p ∨ o.place.offset < p.offset ∧ p.offset < o.stop := by
  obtain ⟨b, s⟩ := p
  have hb : b.reverse.reverse ++ [] = b := by simp
  obtain ⟨o, ho, hplace⟩ := exists_occurrence_go (b := []) (u := b.reverse) rfl (hb.symm ▸ h) (Nat.zero_le _)
  rw [hb, List.length_nil, Nat.zero_add, List.length_reverse] at hplace
  exact ⟨o, ho, hplace⟩

def Apart (shape : Shape α) : Prop :=
  ∀ b s a rest, shape ⟨b, s⟩ = some (a, rest) →
    ∀ u v, s = u ++ v → u ≠ [] → rest.length < v.length → shape ⟨u.reverse ++ b, v⟩ = none

theorem mem_occurrences_go_of_apart (hapart : Apart shape) {b s u v : Text} (hs : s = u ++ v) {a : α}
    {rest : Text} (h : shape ⟨u.reverse ++ b, v⟩ = some (a, rest)) :
    ⟨⟨u.reverse ++ b, v⟩, a, rest⟩ ∈ occurrences.go shape 0 b s := by
  have hsome : shape ⟨u.reverse ++ b, v⟩ ≠ none := by
    rw [h]
    simp
  obtain ⟨o, ho, hplace⟩ := exists_occurrence_go hs hsome (Nat.zero_le _)
  obtain ⟨⟨b', s'⟩, a', rest'⟩ := o
  obtain ⟨htext, hshape⟩ := mem_occurrences_go ho
  rcases hplace with hplace | ⟨hoffset, hstop⟩
  · cases hplace
    rw [h] at hshape
    cases hshape
    exact ho
  · have hsplit : (⟨b', s'⟩ : Place).text = (⟨u.reverse ++ b, v⟩ : Place).text := by
      rw [htext, hs, text, List.reverse_append, List.reverse_reverse, List.append_assoc]
    simp only [Occurrence.stop, offset, reach] at hoffset hstop
    obtain ⟨x, hbefore, hafter⟩ : ∃ x, u.reverse ++ b = x.reverse ++ b' ∧ s' = x ++ v := by
      refine exists_between hsplit ?_
      simp only [offset, List.length_append, List.length_reverse]
      omega
    have hlength := congrArg List.length hbefore
    simp only [List.length_append, List.length_reverse] at hlength
    have hnone := hapart b' s' a' rest' hshape x v hafter
      (by rintro rfl; rw [List.length_nil] at hlength; omega)
      (by rw [hafter, List.length_append] at hstop; omega)
    rw [← hbefore, h] at hnone
    cases hnone

theorem mem_occurrences_of_apart (hapart : Apart shape) {p : Place} {a : α} {rest : Text}
    (h : shape p = some (a, rest)) : ⟨p, a, rest⟩ ∈ (start p.text).occurrences shape := by
  have hp : p.before.reverse.reverse ++ [] = p.before := by simp
  have hmem := mem_occurrences_go_of_apart hapart (b := []) (u := p.before.reverse)
    (v := p.after) rfl (by rw [hp]; exact h)
  rwa [hp] at hmem

theorem mem_occurrences_iff_of_apart (hapart : Apart shape) {m : Text} {o : Occurrence α} :
    o ∈ (start m).occurrences shape ↔
      o.place.text = m ∧ shape o.place = some (o.value, o.rest) := by
  constructor
  · intro h
    exact ⟨text_of_mem h, shape_of_mem h⟩
  · rintro ⟨rfl, h⟩
    exact mem_occurrences_of_apart hapart h

theorem eq_of_place_eq {p : Place} {o o' : Occurrence α} (h : o ∈ p.occurrences shape)
    (h' : o' ∈ p.occurrences shape) (hplace : o.place = o'.place) : o = o' := by
  have hshape := shape_of_mem h
  rw [hplace, shape_of_mem h'] at hshape
  obtain ⟨place, value, rest⟩ := o
  obtain ⟨place', value', rest'⟩ := o'
  cases hplace
  cases hshape
  rfl

theorem eq_of_offset_eq {p : Place} {o o' : Occurrence α} (h : o ∈ p.occurrences shape)
    (h' : o' ∈ p.occurrences shape) (hoffset : o.place.offset = o'.place.offset) : o = o' := by
  refine eq_of_place_eq h h' ?_
  have htext : o.place.before.reverse ++ o.place.after = o'.place.before.reverse ++ o'.place.after :=
    (text_of_mem h).trans (text_of_mem h').symm
  obtain ⟨hbefore, hafter⟩ := List.append_inj htext (by simpa [offset] using hoffset)
  exact congrArg₂ Place.mk (List.reverse_injective hbefore) hafter

theorem stop_le_offset {p : Place} {o o' : Occurrence α} (ho : o ∈ p.occurrences shape)
    (ho' : o' ∈ p.occurrences shape) (h : o.place.offset < o'.place.offset) : o.stop ≤ o'.place.offset := by
  have hsorted := (pairwise_occurrences shape p).and (pairwise_stop_le_offset shape p)
  obtain ⟨before, after, hsplit⟩ := List.append_of_mem ho
  rw [hsplit] at ho' hsorted
  obtain ⟨-, hlater, hless⟩ := List.pairwise_append.1 hsorted
  rcases List.mem_append.1 ho' with ho' | ho'
  · have hback := (hless o' ho' o (List.mem_cons_self ..)).1
    omega
  · rcases List.mem_cons.1 ho' with rfl | ho'
    · omega
    · exact (List.rel_of_pairwise_cons hlater ho').2

theorem find?_occurrences_eq_some_iff {p : Place} {o : Occurrence α} (ho : o ∈ p.occurrences shape)
    {f : Occurrence α → Bool} :
    (p.occurrences shape).find? f = some o ↔
      f o = true ∧ ∀ e ∈ p.occurrences shape, e.place.offset < o.place.offset → f e = false := by
  have hsorted := pairwise_occurrences shape p
  constructor
  · intro h
    obtain ⟨hfo, before, after, hsplit, hbefore⟩ := List.find?_eq_some_iff_append.1 h
    refine ⟨hfo, fun e he hlt => ?_⟩
    rw [hsplit] at he hsorted
    obtain ⟨-, hsorted, -⟩ := List.pairwise_append.1 hsorted
    rcases List.mem_append.1 he with he | he
    · simpa using hbefore e he
    · rcases List.mem_cons.1 he with rfl | he
      · omega
      · have := List.rel_of_pairwise_cons hsorted he
        omega
  · rintro ⟨hfo, hbefore⟩
    obtain ⟨before, after, hsplit⟩ := List.append_of_mem ho
    refine List.find?_eq_some_iff_append.2 ⟨hfo, before, after, hsplit, fun e he => ?_⟩
    rw [hsplit] at hsorted hbefore
    obtain ⟨-, -, hless⟩ := List.pairwise_append.1 hsorted
    simpa using hbefore e (List.mem_append_left _ he) (hless e he o (List.mem_cons_self ..))

theorem findSome?_occurrences_eq_some_iff {β : Type} {p : Place} {f : Occurrence α → Option β} {x : β} :
    (p.occurrences shape).findSome? f = some x ↔
      ∃ o ∈ p.occurrences shape, f o = some x ∧
        ∀ e ∈ p.occurrences shape, e.place.offset < o.place.offset → f e = none := by
  have hsorted := pairwise_occurrences shape p
  constructor
  · intro h
    obtain ⟨before, o, after, hsplit, ho, hbefore⟩ := List.findSome?_eq_some_iff.1 h
    rw [hsplit] at hsorted ⊢
    obtain ⟨-, hlater, -⟩ := List.pairwise_append.1 hsorted
    refine ⟨o, List.mem_append_right before (List.mem_cons_self ..), ho, fun e he hlt => ?_⟩
    rcases List.mem_append.1 he with he | he
    · exact hbefore e he
    · rcases List.mem_cons.1 he with rfl | he
      · omega
      · have := List.rel_of_pairwise_cons hlater he
        omega
  · rintro ⟨o, hmem, ho, hbefore⟩
    obtain ⟨before, after, hsplit⟩ := List.append_of_mem hmem
    rw [hsplit] at hsorted hbefore ⊢
    obtain ⟨-, -, hless⟩ := List.pairwise_append.1 hsorted
    refine List.findSome?_eq_some_iff.2 ⟨before, o, after, rfl, ho, fun e he => ?_⟩
    exact hbefore e (List.mem_append_left _ he) (hless e he o (List.mem_cons_self ..))

end HeaderProbe.Place
