import HeaderProbe.Proofs.Source.Lead
import HeaderProbe.Proofs.Source.PointerMember

namespace HeaderProbe

open Text

section

variable {name : Text} (hname : IsWord name)
include hname

theorem nameShape_eq_some_iff {b s r : Text} :
    nameShape name ⟨b, s⟩ = some ((), r) ↔
      mayBeginName b = true ∧ s = name ++ r ∧ r.head?.any isWordChar = false := by
  obtain ⟨c, hlast, hc⟩ := hname.exists_getLast?
  have hedge (r : Text) : isWordEdge (name.getLast?.or b.head?) r.head? = !r.head?.any isWordChar := by
    simp [isWordEdge, hlast, hc]
  unfold nameShape
  split
  · next hbegin =>
    simp only [Option.bind_eq_bind, Option.bind_eq_some_iff, List.isPrefixOf?_eq_some_iff_append_eq,
      hedge, hbegin, true_and]
    constructor
    · rintro ⟨r', rfl, _, hguard, hr⟩
      cases hr
      exact ⟨rfl, by simpa [guard] using hguard⟩
    · rintro ⟨rfl, hr⟩
      exact ⟨r, rfl, (), by simp [hr], rfl⟩
  · next hbegin => simp [hbegin]

theorem nameShape_apart : Place.Apart (nameShape name) := by
  intro b s _ r h u v hs hu hv
  obtain ⟨-, hafter, -⟩ := (nameShape_eq_some_iff hname).1 h
  rw [hafter] at hs
  by_contra hsome
  obtain ⟨⟨_, r'⟩, hr'⟩ := Option.ne_none_iff_exists'.1 hsome
  obtain ⟨hbegin, -⟩ := (nameShape_eq_some_iff hname).1 hr'
  rcases List.append_eq_append_iff.1 hs with ⟨x, -, rfl⟩ | ⟨x, rfl, -⟩
  · rw [List.length_append] at hv
    omega
  · obtain ⟨c, hc⟩ := Option.ne_none_iff_exists'.1 (mt List.getLast?_eq_none_iff.1 hu)
    have hword := hname.isWordChar (List.mem_append_left x (List.mem_of_getLast? hc))
    rw [mayBeginName_of_word hc hword] at hbegin
    cases hbegin

end

structure Met (p : Place) (field u v : Text) : Prop where
  after_eq : p.after = u ++ (field ++ v)
  left : mayBeginName (u.reverse ++ p.before) = true
  right : v.head?.any isWordChar = false

def mentionAt (p : Place) (field u v : Text) : Occurrence Unit :=
  ⟨⟨u.reverse ++ p.before, field ++ v⟩, (), v⟩

theorem Met.mention {p : Place} {field u v : Text} (h : Met p field u v) :
    Mention field p.after u v where
  text_eq := by rw [h.after_eq, List.append_assoc]
  left := by
    have hleft := mayBeginName_left h.left
    cases hlast : u.getLast? with
    | none => rfl
    | some c => simpa [List.head?_append, hlast] using hleft
  right := h.right

theorem mem_occurrences_nameShape_iff {field : Text} (hfield : IsWord field) {p : Place}
    {o : Occurrence Unit} :
    o ∈ p.occurrences (nameShape field) ↔ ∃ u v, Met p field u v ∧ o = mentionAt p field u v := by
  constructor
  · intro ho
    obtain ⟨⟨b, s⟩, _, r⟩ := o
    obtain ⟨hleft, hs, hright⟩ := (nameShape_eq_some_iff hfield).1 (Place.shape_of_mem ho)
    have htext := Place.text_of_mem ho
    have hlen : p.before.length ≤ b.length := Place.length_le_offset_of_mem_go ho
    simp only [Place.text] at htext hs hleft
    rcases List.append_eq_append_iff.1 htext with ⟨x, hbefore, -⟩ | ⟨u, hbefore, hafter⟩
    · have hx := congrArg List.length hbefore
      simp only [List.length_append, List.length_reverse] at hx
      obtain rfl : x = [] := List.eq_nil_of_length_eq_zero (by omega)
      obtain rfl : p.before = b := by simpa using hbefore
      refine ⟨[], r, ⟨?_, hleft, hright⟩, by simp [mentionAt, hs]⟩
      rw [List.nil_append, ← hs]
      exact (List.append_cancel_left htext).symm
    · obtain rfl : b = u.reverse ++ p.before := by
        rw [← List.reverse_reverse b, hbefore]
        simp
      exact ⟨u, r, ⟨by rw [hafter, hs], hleft, hright⟩, by simp [mentionAt, hs]⟩
  · rintro ⟨u, v, h, rfl⟩
    refine Place.mem_occurrences_go_of_apart (nameShape_apart hfield) h.after_eq ?_
    exact (nameShape_eq_some_iff hfield).2 ⟨h.left, rfl, h.right⟩

section

variable {field definition : Text} (hfield : IsWord field)
include hfield

theorem find?_mention_eq_some_iff {p : Place} {u v : Text} (h : Met p field u v) :
    (p.occurrences (nameShape field)).find? isMember = some (mentionAt p field u v) ↔
      isMember (mentionAt p field u v) = true ∧
        ∀ x y, Met p field x y → x.length < u.length → isMember (mentionAt p field x y) = false := by
  have hmem := (mem_occurrences_nameShape_iff hfield).2 ⟨u, v, h, rfl⟩
  rw [Place.find?_occurrences_eq_some_iff hmem]
  refine and_congr_right fun _ => ⟨fun hearlier x y hxy hlt => ?_, fun hearlier e he hlt => ?_⟩
  · refine hearlier _ ((mem_occurrences_nameShape_iff hfield).2 ⟨x, y, hxy, rfl⟩) ?_
    simpa [mentionAt, Place.offset] using hlt
  · obtain ⟨x, y, hxy, rfl⟩ := (mem_occurrences_nameShape_iff hfield).1 he
    exact hearlier x y hxy (by simpa [mentionAt, Place.offset] using hlt)

theorem memberExtent?_eq_some {u d r : Text} {p : Place} (hp : p = bodyPlace (mask definition))
    (h : Met p field u (d ++ ';' :: r)) (hd : ';' ∉ d)
    (hmember : isMember (mentionAt p field u (d ++ ';' :: r)) = true)
    (hearlier : ∀ x y, Met p field x y → x.length < u.length →
      isMember (mentionAt p field x y) = false) :
    memberExtent? field definition =
      some (statementStart (u.reverse ++ p.before),
        p.offset + (u ++ (field ++ (d ++ [';']))).length) := by
  have hfind := (find?_mention_eq_some_iff hfield h).2 ⟨hmember, hearlier⟩
  have htail : (d ++ ';' :: r).dropWhile (fun c => decide (c ≠ ';')) = ';' :: r := by
    rw [List.dropWhile_append_of_pos fun c hc => by simpa using ne_of_mem_of_not_mem hc hd]
    simp
  have hstop : p.before.length + u.length +
      ((field ++ (d ++ ';' :: r)).length - (';' :: r).length) + 1 =
        p.offset + (u ++ (field ++ (d ++ [';']))).length := by
    simp only [Place.offset, List.length_append, List.length_cons, List.length_nil]
    omega
  rw [memberExtent?, ← hp, hfind]
  simp only [mentionAt, Place.offset, Place.reach, Option.bind_eq_bind, Option.bind_some, htail,
    List.length_append, List.length_reverse] at hstop ⊢
  rw [← hstop, Nat.add_comm u.length]
  rfl

theorem memberExtent?_eq_none_iff {p : Place} (hp : p = bodyPlace (mask definition)) :
    memberExtent? field definition = none ↔
      ∀ u v, Met p field u v → isMember (mentionAt p field u v) = true → ';' ∉ v := by
  rw [memberExtent?, ← hp]
  cases hfind : (p.occurrences (nameShape field)).find? isMember with
  | none =>
    rw [List.find?_eq_none] at hfind
    refine ⟨fun _ u v h hmember => ?_, fun _ => rfl⟩
    exact absurd hmember (hfind _ ((mem_occurrences_nameShape_iff hfield).2 ⟨u, v, h, rfl⟩))
  | some o =>
    obtain ⟨x, y, hxy, rfl⟩ :=
      (mem_occurrences_nameShape_iff hfield).1 (List.mem_of_find?_eq_some hfind)
    obtain ⟨hmember, hearlier⟩ := (find?_mention_eq_some_iff hfield hxy).1 hfind
    -- What follows a later mention is also behind the first, so only the first one matters.
    have hfirst : (∀ u v, Met p field u v → isMember (mentionAt p field u v) = true → ';' ∉ v) ↔
        ';' ∉ y := by
      refine ⟨fun h => h x y hxy hmember, fun hy u v h hu hv => ?_⟩
      have hlen : x.length ≤ u.length := by
        by_contra hlt
        rw [hearlier u v h (by omega)] at hu
        cases hu
      have hsplit : (x ++ field) ++ y = (u ++ field) ++ v := by
        rw [List.append_assoc, List.append_assoc, ← hxy.after_eq, h.after_eq]
      rcases List.append_eq_append_iff.1 hsplit with ⟨z, -, rfl⟩ | ⟨z, hz, rfl⟩
      · exact hy (List.mem_append_right z hv)
      · have hz' := congrArg List.length hz
        simp only [List.length_append] at hz'
        obtain rfl : z = [] := List.eq_nil_of_length_eq_zero (by omega)
        exact hy hv
    rw [hfirst]
    by_cases hy : ';' ∈ y <;> simp [mentionAt, guard, hy]

end

theorem findMember_eq_none_iff {type field t : Text} {struct : Span} {p : Place} (hfield : IsWord field)
    (hstruct : findStruct type t = some struct) (hp : p = bodyPlace (mask struct.text)) :
    findMember type field t = none ↔
      ∀ u v, Met p field u v → isMember (mentionAt p field u v) = true → ';' ∉ v := by
  rw [← memberExtent?_eq_none_iff hfield hp, findMember, hstruct]
  cases hextent : memberExtent? field struct.text with
  | none => simp [hextent]
  | some extent => simp [hextent]

theorem bodyPlace_eq {u : Text} (hu : '\x7b' ∉ u) (r : Text) :
    bodyPlace (u ++ '\x7b' :: r) = ⟨'\x7b' :: u.reverse, r⟩ := by
  have htake : (u ++ '\x7b' :: r).takeWhile (fun c => decide (c ≠ '\x7b')) = u := by
    rw [List.takeWhile_append_of_pos fun c hc => by simpa using ne_of_mem_of_not_mem hc hu]
    simp
  have hlength : u.length + 1 = (u ++ ['\x7b']).length := by simp
  have hsplit : u ++ '\x7b' :: r = (u ++ ['\x7b']) ++ r := by simp
  rw [bodyPlace, htake, Place.of, hlength, hsplit, List.take_left, List.drop_left]
  simp

theorem bodyPlace_before {masked : Text} (h : (bodyPlace masked).after ≠ []) :
    (bodyPlace masked).before.head? = some '\x7b' := by
  have hopen : '\x7b' ∈ masked := by
    by_contra hnone
    have hall : masked.takeWhile (fun c => decide (c ≠ '\x7b')) = masked :=
      List.takeWhile_eq_self_iff.2 fun c hc => by simpa using ne_of_mem_of_not_mem hc hnone
    refine h (List.drop_eq_nil_of_le ?_)
    rw [hall]
    omega
  obtain ⟨u, r, rfl, hu⟩ := List.eq_append_cons_of_mem hopen
  rw [bodyPlace_eq hu]
  rfl

theorem exists_before_statementHead (before : Text) :
    ∃ w b, before = (statementHead before).reverse ++ (w ++ b) ∧ AllBlank w ∧ StatementBoundary b := by
  obtain ⟨b, hb, hbound, -⟩ := exists_before_statementRest before
  have hrest := takeWhile_append_skipBlanks (statementRest before)
  refine ⟨((statementRest before).takeWhile isBlank).reverse, b, ?_, (allBlank_takeWhile _).reverse,
    hbound⟩
  conv_lhs => rw [hb, ← hrest]
  rw [List.reverse_append, List.append_assoc]
  rfl

theorem opensPointer_append_open (s b : Text) :
    opensPointer (s ++ '(' :: b) = opensPointer (s ++ ['(']) := by
  unfold opensPointer
  rw [skipBlanks_append_cons rfl, skipBlanks_append_cons rfl]
  cases hs : skipBlanks s with
  | nil => rfl
  | cons c r =>
    by_cases hc : c = '*'
    · subst hc
      simp only [List.cons_append]
      rw [skipBlanks_append_cons rfl, skipBlanks_append_cons rfl]
      cases skipBlanks r <;> rfl
    · simp [hc]

theorem wordBefore_append {s b : Text} (hs : skipBlanks s ≠ []) (hb : b.head?.any isWordChar = false) :
    wordBefore (s ++ b) = wordBefore s := by
  cases hskip : skipBlanks s with
  | nil => exact absurd hskip hs
  | cons c r =>
    rw [wordBefore, skipBlanks_append_of_cons hskip, ← List.cons_append, takeWhile_isWordChar_append hb,
      wordBefore, hskip]

def Tagged (u : Text) : Prop :=
  tagKeywords.contains (wordBefore u.reverse) = true

instance (u : Text) : Decidable (Tagged u) :=
  inferInstanceAs (Decidable (_ = true))

theorem Tagged.append {u b : Text} (hu : Tagged u) (hb : b.head?.any isWordChar = false) :
    tagKeywords.contains (wordBefore (u.reverse ++ b)) = true := by
  rw [wordBefore_append (fun hnil => ?_) hb]
  · exact hu
  · rw [Tagged, wordBefore, hnil] at hu
    revert hu
    decide

theorem isMember_of_tag {o : Occurrence Unit}
    (h : tagKeywords.contains (wordBefore o.place.before) = true) : isMember o = false := by
  have hopens : opensPointer (statementHead o.place.before).reverse = false := by
    by_contra hopens
    obtain ⟨w, b, hb, -, -⟩ := exists_before_statementHead o.place.before
    generalize (statementHead o.place.before).reverse = s at hb hopens
    unfold opensPointer at hopens
    split at hopens
    · next r hskip =>
      have hstar : skipBlanks o.place.before = '*' :: (r ++ (w ++ b)) := by
        rw [hb, skipBlanks_append_of_cons hskip]
      have hword : isWordChar '*' = false := by decide +kernel
      have hnil : wordBefore o.place.before = [] := by
        rw [wordBefore, hstar, List.takeWhile_cons, if_neg (by rw [hword]; decide)]
        rfl
      rw [hnil] at h
      revert h
      decide
    · exact hopens rfl
  simp only [isMember, hopens, h, Bool.and_false, Bool.not_true, ite_self]

end HeaderProbe
