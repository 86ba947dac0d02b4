import HeaderProbe.Source.Member
import HeaderProbe.Proofs.Mask.Cut
import HeaderProbe.Proofs.Source.Partner
import HeaderProbe.Proofs.Text.Blank
import HeaderProbe.Proofs.Text.Occurrence
import HeaderProbe.Proofs.Text.Word

namespace HeaderProbe

open Text

theorem afterOpening_eq_some_iff {name s r : Text} :
    afterOpening name s = some r ↔
      ∃ u, (∃ w, AllBlank w ∧ u = name ++ w ++ ['{']) ∧ s = u ++ r := by
  simp only [afterOpening, Option.bind_eq_bind, Option.bind_eq_some_iff,
    List.isPrefixOf?_eq_some_iff_append_eq]
  constructor
  · rintro ⟨x, rfl, hx⟩
    split at hx
    · next r' hr =>
      cases hx
      obtain ⟨-, w, hw, rfl⟩ := skipBlanks_eq_cons_iff.1 hr
      exact ⟨name ++ w ++ ['{'], ⟨w, hw, rfl⟩, by simp⟩
    · cases hx
  · rintro ⟨_, ⟨w, hw, rfl⟩, rfl⟩
    refine ⟨w ++ '{' :: r, by simp, ?_⟩
    rw [skipBlanks_append hw, skipBlanks_cons (by decide)]
    rfl

theorem afterOpening_cuttable (name : Text) : Cuttable (afterOpening name) :=
  cuttable_of_iff fun _ _ => afterOpening_eq_some_iff

theorem bodyShape_eq_some_iff {keyword name : Text} {p : Place} {r : Text} :
    bodyShape keyword name p = some ((), r) ↔
      isWordEdge p.before.head? p.after.head? = true ∧
        ∃ s, p.after = keyword ++ s ∧ pastBlanks (afterOpening name) s = some r := by
  simp only [bodyShape]
  split
  · next he =>
    simp only [he, true_and, Option.bind_eq_bind, Option.bind_eq_some_iff,
      List.isPrefixOf?_eq_some_iff_append_eq, Option.pure_def, Option.some.injEq, Prod.mk.injEq,
      exists_eq_right]
    grind
  · next he => simp [he]

theorem bodyShape_suffix {keyword name : Text} {p : Place} {r : Text}
    (h : bodyShape keyword name p = some ((), r)) : r <:+ p.after := by
  obtain ⟨-, s, hs, hr⟩ := bodyShape_eq_some_iff.1 h
  rw [hs]
  exact ((afterOpening_cuttable name).pastBlanks.suffix hr).trans (List.suffix_append keyword s)

theorem bodyShape_cut {keyword name b f close r : Text} (hk : keyword.head?.any isWordChar = true)
    (h : bodyShape keyword name ⟨b, f ++ close⟩ = some ((), r ++ close)) :
    bodyShape keyword name ⟨[], f⟩ = some ((), r) := by
  obtain ⟨-, s, hs, hr⟩ := bodyShape_eq_some_iff.1 h
  have hp := (afterOpening_cuttable name).pastBlanks
  obtain ⟨u, hu⟩ := hp.suffix hr
  have hf : f = keyword ++ (u ++ r) := by
    simp only [← hu, ← List.append_assoc, List.append_cancel_right_eq] at hs
    simpa using hs
  refine bodyShape_eq_some_iff.2 ⟨?_, u ++ r, hf, hp.cut (b := close) ?_⟩
  · cases keyword with
    | nil => simp at hk
    | cons c k => simpa [hf, isWordEdge] using hk
  · rw [List.append_assoc, hu]
    exact hr

theorem exists_of_bodyExtent? {o : Occurrence Unit} {start stop : Nat}
    (h : bodyExtent? o = some (start, stop)) :
    ∃ r close, o.rest = r ++ '}' :: close ∧ Bracket.brace.afterClose ('{' :: (r ++ ['}'])) = some [] ∧
      start = o.place.offset ∧ stop = o.place.offset + o.place.reach close := by
  simp only [bodyExtent?, Option.bind_eq_bind, Option.bind_eq_some_iff, Option.pure_def,
    Option.some.injEq, Prod.mk.injEq] at h
  obtain ⟨close, hclose, rfl, rfl⟩ := h
  obtain ⟨u, hu, hpart⟩ := Bracket.partner_eq_some_iff.1 hclose
  cases u with
  | nil => simp [Bracket.closing] at hu
  | cons c r =>
    simp only [List.cons_append, List.cons.injEq] at hu
    obtain ⟨rfl, hu⟩ := hu
    exact ⟨r, close, hu, hpart, rfl, rfl⟩

structure Definition (keyword name t : Text) where
  before : Text
  piece : Text
  after : Text
  body : Text
  text_eq : mask t = before.reverse ++ piece ++ after
  shape_eq : bodyShape keyword name ⟨before, piece ++ after⟩ = some ((), body ++ after)
  closes : Bracket.brace.afterClose ('{' :: body) = some []
  ends : piece.getLast? = some '}'

theorem exists_definition {keyword name t : Text} {s : Span} (h : findBody keyword name t = some s) :
    ∃ d : Definition keyword name t,
      s = Span.cut t d.before.length (d.before.length + d.piece.length) := by
  simp only [findBody, Option.map_eq_some_iff, Prod.exists] at h
  obtain ⟨start, stop, hfind, rfl⟩ := h
  obtain ⟨o, ho, hext⟩ := List.exists_of_findSome?_eq_some hfind
  obtain ⟨r, close, hrest, hclose, rfl, rfl⟩ := exists_of_bodyExtent? hext
  obtain ⟨x, hx⟩ := bodyShape_suffix (Place.shape_of_mem ho)
  have hafter : o.place.after = x ++ r ++ ['}'] ++ close := by
    rw [← hx, hrest]
    simp
  refine ⟨⟨o.place.before, x ++ r ++ ['}'], close, r ++ ['}'], ?_, ?_, hclose, by simp⟩, ?_⟩
  · have htext := Place.text_of_mem ho
    rw [Place.text_start, Place.text, hafter] at htext
    simp only [← htext, List.append_assoc]
  · rw [← hafter, List.append_assoc, List.singleton_append, ← hrest]
    exact Place.shape_of_mem ho
  · simp only [Place.offset, Place.reach, hafter, List.length_append]
    congr 1
    omega

namespace Definition

variable {keyword name t : Text} (d : Definition keyword name t)

theorem exists_tail : ∃ s, d.piece = keyword ++ s := by
  obtain ⟨-, s, hs, hr⟩ := bodyShape_eq_some_iff.1 d.shape_eq
  obtain ⟨u, hu⟩ := (afterOpening_cuttable name).pastBlanks.suffix hr
  refine ⟨u ++ d.body, ?_⟩
  simp only [← hu, ← List.append_assoc, List.append_cancel_right_eq] at hs
  rw [hs, List.append_assoc]

theorem piece_ne_nil : d.piece ≠ [] := by
  intro h
  have := d.ends
  simp [h] at this

theorem cut_text :
    (Span.cut t d.before.length (d.before.length + d.piece.length)).text =
      (t.drop d.before.length).take d.piece.length := by
  simp [Span.cut]

theorem drop_mask : (mask t).drop d.before.length = d.piece ++ d.after := by
  rw [d.text_eq, List.append_assoc, List.drop_left' (by simp)]

theorem mask_cut (hk : keyword.head?.any isWordChar = true) :
    mask ((t.drop d.before.length).take d.piece.length) = d.piece := by
  obtain ⟨s, hs⟩ := d.exists_tail
  cases keyword with
  | nil => simp at hk
  | cons c k =>
    have hfirst : (mask t)[d.before.length]? = some c := by
      rw [← List.head?_drop, d.drop_mask, hs]
      rfl
    obtain ⟨n, hn⟩ : ∃ n, d.piece.length = n + 1 :=
      Nat.exists_eq_add_one.2 (List.length_pos_of_ne_nil d.piece_ne_nil)
    have hlast : (mask t)[d.before.length + n]? = some '}' := by
      rw [← List.getElem?_drop, d.drop_mask, List.getElem?_append_left (by omega), ← d.ends,
        List.getLast?_eq_getElem?, hn, Nat.add_sub_cancel]
    rw [hn, mask_drop_take hfirst (isBlank_of_isWordChar (by simpa using hk)) hlast (by decide),
      d.drop_mask, ← hn, List.take_left' rfl]

theorem findBody_piece (hk : keyword.head?.any isWordChar = true) :
    findBody keyword name ((t.drop d.before.length).take d.piece.length) =
      some (Span.cut ((t.drop d.before.length).take d.piece.length) 0 d.piece.length) := by
  have hshape : bodyShape keyword name (Place.start d.piece) = some ((), d.body) :=
    bodyShape_cut hk d.shape_eq
  obtain ⟨later, hocc⟩ := Place.occurrences_eq_cons hshape
  have hext : bodyExtent? ⟨Place.start d.piece, (), d.body⟩ = some (0, d.piece.length) := by
    simp [bodyExtent?, d.closes, Place.start, Place.offset, Place.reach]
  rw [findBody, d.mask_cut hk, hocc]
  simp [hext]

end Definition

theorem cut_whole (t : Text) : Span.cut t 0 t.length = ⟨t, 0, t.length, 1⟩ := by
  simp [Span.cut]

theorem findBody_fragment {keyword name t : Text} {s : Span}
    (hk : keyword.head?.any isWordChar = true) (h : findBody keyword name t = some s) :
    s.text ≠ [] ∧ findBody keyword name s.text = some ⟨s.text, 0, s.text.length, 1⟩ := by
  obtain ⟨d, rfl⟩ := exists_definition h
  have hlen : ((t.drop d.before.length).take d.piece.length).length = d.piece.length := by
    rw [← length_mask, d.mask_cut hk]
  rw [d.cut_text]
  constructor
  · intro hnil
    rw [hnil] at hlen
    exact d.piece_ne_nil (List.length_eq_zero_iff.1 hlen.symm)
  · rw [d.findBody_piece hk, ← cut_whole, hlen]

theorem text_cut_cut {t : Text} {a b i j : Nat} (hj : j ≤ (Span.cut t a b).text.length) :
    (Span.cut (Span.cut t a b).text i j).text = (Span.cut t (a + i) (a + j)).text := by
  simp only [Span.cut, List.length_take, List.length_drop] at hj ⊢
  rw [List.drop_take, List.take_take, List.drop_drop]
  congr 1
  omega

theorem nameShape_suffix {name : Text} {p : Place} {r : Text}
    (h : nameShape name p = some ((), r)) : r <:+ p.after := by
  simp only [nameShape] at h
  split at h
  · simp only [Option.bind_eq_bind, Option.bind_eq_some_iff,
      List.isPrefixOf?_eq_some_iff_append_eq] at h
    obtain ⟨rest, hrest, -, -, hr⟩ := h
    cases hr
    exact ⟨name, hrest⟩
  · cases h

theorem memberExtent?_le {field d : Text} {i j : Nat} (h : memberExtent? field d = some (i, j)) :
    j ≤ d.length := by
  simp only [memberExtent?, Option.bind_eq_bind, Option.bind_eq_some_iff, Option.pure_def,
    Option.some.injEq, Prod.mk.injEq] at h
  obtain ⟨o, ho, _, hguard, -, rfl⟩ := h
  have hmem := List.mem_of_find?_eq_some ho
  have htail : (o.rest.dropWhile (· ≠ ';')) <:+ o.place.after :=
    (List.dropWhile_suffix _).trans (nameShape_suffix (Place.shape_of_mem hmem))
  have hne : o.rest.dropWhile (· ≠ ';') ≠ [] := by
    intro hnil
    rw [hnil] at hguard
    cases hguard
  have hlen := congrArg List.length (Place.text_of_mem hmem)
  rw [Place.length_text, bodyPlace, Place.text_of, length_mask] at hlen
  have := htail.length_le
  have := List.length_pos_of_ne_nil hne
  simp only [Place.reach]
  omega

theorem findMember_fragment {name field t : Text} {s : Span} (h : findStruct name t = some s) :
    (findMember name field t).map (fun m => (m.text, m.start, m.stop)) =
      (findMember name field s.text).map fun m => (m.text, s.start + m.start, s.start + m.stop) := by
  have hw := (findBody_fragment (by decide) h).2
  rw [← findStruct] at hw
  obtain ⟨a, b, rfl⟩ : ∃ a b, s = Span.cut t a b :=
    let ⟨_, hs⟩ := exists_definition h
    ⟨_, _, hs⟩
  cases he : memberExtent? field (Span.cut t a b).text with
  | none => simp [findMember, h, hw, he]
  | some e =>
    simp only [findMember, h, hw, he, Option.bind_eq_bind, Option.bind_some, Option.pure_def,
      Option.map_some, Nat.zero_add, text_cut_cut (memberExtent?_le he)]
    rfl

end HeaderProbe
