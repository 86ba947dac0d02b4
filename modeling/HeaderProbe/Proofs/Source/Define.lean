import HeaderProbe.Proofs.Source.Directive
import HeaderProbe.Proofs.Mask.Projection
import HeaderProbe.Proofs.Text.Word
import HeaderProbe.Source.Define

namespace HeaderProbe

open Text

theorem dropWhile_eq_cons_iff {α : Type} {p : α → Bool} {l r : List α} {a : α} :
    l.dropWhile p = a :: r ↔ p a = false ∧ ∃ w, (∀ b ∈ w, p b = true) ∧ l = w ++ a :: r := by
  constructor
  · intro h
    have hhead := List.head?_dropWhile_not p l
    rw [h] at hhead
    refine ⟨by simpa using hhead, l.takeWhile p, fun b hb => List.mem_takeWhile_imp hb, ?_⟩
    rw [← h, List.takeWhile_append_dropWhile]
  · rintro ⟨ha, w, hw, rfl⟩
    rw [List.dropWhile_append_of_pos hw, List.dropWhile_cons_of_neg (by simp [ha])]

def AllIndent (s : Text) : Prop :=
  ∀ c ∈ s, isIndent c = true

theorem AllIndent.notMem {s : Text} (hs : AllIndent s) {c : Char} (hc : isIndent c = false) : c ∉ s := by
  intro hmem
  rw [hs c hmem] at hc
  cases hc

theorem isIndent_of_isWordChar {c : Char} (hc : isWordChar c = true) : isIndent c = false := by
  simp only [isIndent, Bool.or_eq_false_iff, beq_eq_false_iff_ne]
  exact ⟨isWordChar_ne hc (by decide +kernel), isWordChar_ne hc (by decide +kernel)⟩

theorem pastIndent_eq_some_iff {α : Type} {f : Text → Option α}
    (hf : ∀ c r, isIndent c = true → f (c :: r) = none) {s : Text} {a : α} :
    pastIndent f s = some a ↔ ∃ w r, w ≠ [] ∧ AllIndent w ∧ s = w ++ r ∧ f r = some a := by
  constructor
  · intro h
    induction s with
    | nil => cases h
    | cons c s ih =>
      simp only [pastIndent] at h
      split at h
      · next hc =>
        rcases Option.or_eq_some_iff.1 h with h | ⟨-, h⟩
        · obtain ⟨w, r, -, hw, rfl, hr⟩ := ih h
          exact ⟨c :: w, r, List.cons_ne_nil c w, List.forall_mem_cons.2 ⟨hc, hw⟩, rfl, hr⟩
        · exact ⟨[c], s, List.cons_ne_nil c [], by simpa [AllIndent] using hc, rfl, h⟩
      · cases h
  · rintro ⟨w, r, hne, hw, rfl, hr⟩
    have hstop : pastIndent f r = none := by
      cases r with
      | nil => rfl
      | cons d r =>
        have hd : isIndent d = false := by
          by_contra hd
          rw [hf d r (by simpa using hd)] at hr
          cases hr
        rw [pastIndent, if_neg (by simp [hd])]
    induction w with
    | nil => exact absurd rfl hne
    | cons c w ih =>
      obtain ⟨hc, hw⟩ := List.forall_mem_cons.1 hw
      rw [List.cons_append, pastIndent, if_pos hc]
      cases w with
      | nil => rw [List.nil_append, hstop, Option.none_or, hr]
      | cons d w => rw [ih (List.cons_ne_nil d w) hw, Option.some_or]

def afterName (name s : Text) : Option Text := do
  let rest ← name.isPrefixOf? s
  guard (isWordEdge (some (name.getLast?.getD ' ')) rest.head?)
  return rest

theorem afterName_eq_some_iff {name : Text} (hname : IsWord name) {s r : Text} :
    afterName name s = some r ↔ s = name ++ r ∧ r.head?.any isWordChar = false := by
  obtain ⟨last, hlast, hword⟩ := hname.exists_getLast?
  simp only [afterName, Option.bind_eq_bind, Option.bind_eq_some_iff,
    List.isPrefixOf?_eq_some_iff_append_eq, hlast, Option.getD_some]
  constructor
  · rintro ⟨x, rfl, _, hguard, hx⟩
    cases hx
    exact ⟨rfl, by simpa [guard, isWordEdge, hword] using hguard⟩
  · rintro ⟨rfl, hr⟩
    exact ⟨r, rfl, (), by simp [isWordEdge, hword, hr], rfl⟩

theorem afterName_indent {name : Text} (hname : IsWord name) {c : Char} (hc : isIndent c = true)
    (r : Text) : afterName name (c :: r) = none := by
  by_contra hsome
  obtain ⟨x, hx⟩ := Option.ne_none_iff_exists'.1 hsome
  obtain ⟨hsplit, -⟩ := (afterName_eq_some_iff hname).1 hx
  obtain ⟨first, tail, rfl⟩ := List.exists_cons_of_ne_nil hname.1
  obtain ⟨rfl, -⟩ := List.cons.inj hsplit
  rw [isIndent_of_isWordChar (hname.isWordChar (List.mem_cons_self ..))] at hc
  cases hc

def DefineOpening (name s : Text) : Prop :=
  ∃ a b c, AllIndent a ∧ AllIndent b ∧ AllIndent c ∧ c ≠ [] ∧
    s = a ++ '#' :: (b ++ ("define".toList ++ (c ++ name)))

theorem defineShape_eq_some_iff {name : Text} (hname : IsWord name) {p : Place} {r : Text} :
    defineShape name p = some ((), r) ↔
      p.atLineStart = true ∧ r.head?.any isWordChar = false ∧
        ∃ s, DefineOpening name s ∧ p.after = s ++ r := by
  have hshape : defineShape name p =
      if p.atLineStart then do
        let rest ← ['#'].isPrefixOf? (p.after.dropWhile isIndent)
        let rest ← "define".toList.isPrefixOf? (rest.dropWhile isIndent)
        let rest ← pastIndent (afterName name) rest
        return ((), rest)
      else none := rfl
  have hindent := fun c r hc => @afterName_indent name hname c hc r
  -- The word of the line is kept from the simplifier, which would spell it out.
  generalize hkeyword : "define".toList = keyword at hshape
  have hfirst : ∃ k, keyword = 'd' :: k := ⟨_, hkeyword.symm⟩
  rw [hshape]
  split
  · next hstart =>
    simp only [Option.bind_eq_bind, Option.bind_eq_some_iff, List.isPrefixOf?_eq_some_iff_append_eq,
      pastIndent_eq_some_iff hindent, afterName_eq_some_iff hname]
    obtain ⟨k, hk⟩ := hfirst
    constructor
    · rintro ⟨x, hx, y, hy, _, ⟨c, _, hne, hc, rfl, rfl, hr⟩, hend⟩
      cases hend
      rw [hk] at hy
      obtain ⟨-, a, ha, hafter⟩ := dropWhile_eq_cons_iff.1 hx.symm
      obtain ⟨-, b, hb, rfl⟩ := dropWhile_eq_cons_iff.1 hy.symm
      refine ⟨hstart, hr, _, ⟨a, b, c, ha, hb, hc, hne, rfl⟩, ?_⟩
      rw [hafter, hkeyword, hk]
      simp
    · rintro ⟨-, hr, s, ⟨a, b, c, ha, hb, hc, hne, rfl⟩, hafter⟩
      rw [hkeyword] at hafter
      refine ⟨b ++ (keyword ++ (c ++ (name ++ r))), ?_, c ++ (name ++ r), ?_, r,
        ⟨c, _, hne, hc, rfl, rfl, hr⟩, rfl⟩
      · exact (dropWhile_eq_cons_iff.2 ⟨rfl, a, ha, by rw [hafter]; simp⟩).symm
      · rw [hk]
        exact (dropWhile_eq_cons_iff.2 ⟨rfl, b, hb, rfl⟩).symm
  · next hstart => simp [hstart]

theorem DefineOpening.newline_notMem {name s : Text} (hname : IsWord name) (h : DefineOpening name s) :
    '\n' ∉ s := by
  obtain ⟨a, b, c, ha, hb, hc, -, rfl⟩ := h
  have hindent : isIndent '\n' = false := rfl
  have hword : '\n' ∉ name := fun hmem => isWordChar_ne (hname.isWordChar hmem) (by decide +kernel) rfl
  simp [ha.notMem hindent, hb.notMem hindent, hc.notMem hindent, hword]

theorem DefineOpening.hash_mem {name s : Text} (h : DefineOpening name s) : '#' ∈ s := by
  obtain ⟨a, b, c, -, -, -, -, rfl⟩ := h
  simp

theorem newline_mem_iff {t a m r a' m' r' : Text} (ht : t = a ++ (m ++ r))
    (hmask : mask t = a' ++ (m' ++ r')) (ha : a.length = a'.length) (hm : m.length = m'.length) :
    '\n' ∈ m ↔ '\n' ∈ m' := by
  have hmap : (mask t).map (· == '\n') = t.map (· == '\n') := map_newline_maskFrom 0 t
  rw [hmask, ht] at hmap
  simp only [List.map_append] at hmap
  have hrest := (List.append_inj hmap (by simp [ha])).2
  have hpiece := (List.append_inj hrest (by simp [hm])).1
  have hmem (s : Text) : '\n' ∈ s ↔ true ∈ s.map (· == '\n') := by simp
  rw [hmem, hmem, hpiece]

theorem exists_of_defineLength (seen s : Text) :
    ∃ m r, s = m ++ r ∧ defineLength seen s = m.length ∧
      (∀ u v, m = u ++ '\n' :: v → endsIn '\\' (u.reverse ++ seen) = true) ∧
      (r = [] ∨ ∃ r', r = '\n' :: r' ∧ endsIn '\\' (m.reverse ++ seen) = false) := by
  induction s generalizing seen with
  | nil => exact ⟨[], [], rfl, rfl, by simp, .inl rfl⟩
  | cons c s ih =>
    rw [defineLength]
    split
    · next hstop => exact ⟨[], c :: s, rfl, rfl, by simp, .inr ⟨s, by rw [hstop.1], hstop.2⟩⟩
    · next hgo =>
      obtain ⟨m, r, rfl, hlength, hjoined, hend⟩ := ih (c :: seen)
      refine ⟨c :: m, r, rfl, by rw [hlength, List.length_cons], ?_, by simpa using hend⟩
      intro u v huv
      cases u with
      | nil =>
        obtain ⟨rfl, -⟩ := List.cons.inj huv
        simpa using hgo
      | cons d u =>
        obtain ⟨rfl, hm⟩ := List.cons.inj huv
        simpa using hjoined u v hm

structure FoundDefine (name t : Text) where
  before : Text
  opening : Text
  line : Text
  after : Text
  text_eq : t = before ++ (opening ++ (line ++ after))
  masked : Text
  shown : Text
  rest : Text
  mask_eq : mask t = masked.reverse ++ (shown ++ rest)
  length_before : before.length = masked.length
  length_opening : opening.length = shown.length
  shape : defineShape name ⟨masked, shown ++ rest⟩ = some ((), rest)
  joined : ∀ u v, line = u ++ '\n' :: v → endsIn '\\' (u.reverse ++ opening.reverse) = true
  ends : after = [] ∨ ∃ r, after = '\n' :: r ∧ endsIn '\\' (line.reverse ++ opening.reverse) = false

namespace FoundDefine

variable {name t : Text}

def text (d : FoundDefine name t) : Text :=
  d.opening ++ d.line

def span (d : FoundDefine name t) : Span :=
  Span.cut t d.before.length (d.before.length + d.text.length)

theorem text_split (d : FoundDefine name t) : t = d.before ++ (d.text ++ d.after) := by
  rw [text, List.append_assoc, ← d.text_eq]

theorem text_span (d : FoundDefine name t) : d.span.text = d.text := by
  have hdrop := congrArg (List.drop d.before.length) d.text_split
  rw [List.drop_left] at hdrop
  rw [span, Span.cut, Nat.add_sub_cancel_left, hdrop, List.take_left]

theorem take_start (d : FoundDefine name t) : t.take d.span.start = d.before := by
  have htake := congrArg (List.take d.before.length) d.text_split
  rwa [List.take_left] at htake

theorem drop_stop (d : FoundDefine name t) : t.drop d.span.stop = d.after := by
  have hdrop := congrArg (List.drop (d.before ++ d.text).length) d.text_split
  rw [← List.append_assoc, List.drop_left, List.length_append] at hdrop
  exact hdrop

end FoundDefine

theorem exists_found_define {name t : Text} {s : Span} (hname : IsWord name)
    (h : findDefine name t = some s) : ∃ d : FoundDefine name t, s = d.span := by
  simp only [findDefine, Option.bind_eq_bind, Option.bind_eq_some_iff, Option.pure_def,
    Option.some.injEq] at h
  obtain ⟨o, ho, rfl⟩ := h
  have hmem : o ∈ (Place.start (mask t)).occurrences (defineShape name) := List.mem_of_head? ho
  have hshape := Place.shape_of_mem hmem
  have htext : o.place.before.reverse ++ o.place.after = mask t := Place.text_of_mem hmem
  obtain ⟨-, -, shown, -, hafter⟩ := (defineShape_eq_some_iff hname).1 hshape
  have hlength : t.length = o.place.before.length + (shown.length + o.rest.length) := by
    rw [← length_mask t, ← htext, hafter]
    simp
  have hstop : o.stop = o.place.before.length + shown.length := by
    simp [Occurrence.stop, Place.offset, Place.reach, hafter]
  obtain ⟨m, r, hsplit, hm, hjoined, hend⟩ :=
    exists_of_defineLength ((t.drop o.place.before.length).take shown.length).reverse
      (t.drop (o.place.before.length + shown.length))
  have hbefore : (t.take o.place.before.length).length = o.place.before.length := by
    rw [List.length_take]
    omega
  have hopening : ((t.drop o.place.before.length).take shown.length).length = shown.length := by
    rw [List.length_take, List.length_drop]
    omega
  refine ⟨⟨t.take o.place.before.length, (t.drop o.place.before.length).take shown.length, m, r,
    ?_, o.place.before, shown, o.rest, ?_, hbefore, hopening, ?_, hjoined, hend⟩, ?_⟩
  · rw [← hsplit, ← List.drop_drop, List.take_append_drop, List.take_append_drop]
  · rw [← htext, hafter]
  · rw [← hafter]
    exact hshape
  · simp only [FoundDefine.span, FoundDefine.text, Place.offset, hbefore, hopening,
      List.length_append, hstop, Nat.add_sub_cancel_left, hm, Nat.add_assoc]

theorem forall_cut_iff {c : Char} {s : Text} {P : Text → Prop} :
    (∀ u v, s = u ++ c :: v → P u) ↔ ∀ n ∈ List.range s.length, s[n]? = some c → P (s.take n) := by
  constructor
  · intro h n _ hn
    exact h (s.take n) (s.drop (n + 1)) (eq_take_append_drop_of_getElem? hn)
  · rintro h u v rfl
    have hcut := h u.length (by simp) (by simp)
    rwa [List.take_left] at hcut

instance {c : Char} {s : Text} {P : Text → Prop} [∀ u, Decidable (P u)] :
    Decidable (∀ u v, s = u ++ c :: v → P u) :=
  decidable_of_iff _ forall_cut_iff.symm

def Continues (before : Text) : Prop :=
  before.head? = some '\n' ∧ isContinued before.tail = true

instance (before : Text) : Decidable (Continues before) :=
  inferInstanceAs (Decidable (_ ∧ _))

/-- A physical line with all that continue it, for the text before it read backwards. -/
structure LogicalLine (before line after : Text) : Prop where
  begins : before.head?.all (· == '\n') = true
  fresh : ¬ Continues before
  joined : ∀ u v, line = u ++ '\n' :: v → isContinued u.reverse = true
  ends : after.head?.all (· == '\n') = true
  finished : after ≠ [] → isContinued line.reverse = false

instance (before line after : Text) : Decidable (LogicalLine before line after) :=
  decidable_of_iff (_ ∧ _ ∧ _ ∧ _ ∧ _)
    ⟨fun ⟨h₁, h₂, h₃, h₄, h₅⟩ => ⟨h₁, h₂, h₃, h₄, h₅⟩, fun ⟨h₁, h₂, h₃, h₄, h₅⟩ => ⟨h₁, h₂, h₃, h₄, h₅⟩⟩

def NoBlankLine (s : Text) : Prop :=
  ∀ u v, s = u ++ '\n' :: v → ¬ AllBlank (u.reverse.takeWhile (· ≠ '\n'))

instance (s : Text) : Decidable (NoBlankLine s) :=
  inferInstanceAs (Decidable (∀ u v, s = u ++ '\n' :: v → ¬ AllBlank (u.reverse.takeWhile (· ≠ '\n'))))

theorem isContinued_of_allBlank {s : Text} (h : AllBlank (s.takeWhile (· ≠ '\n'))) :
    isContinued s = false := by
  have hnil : skipBlanks (s.takeWhile (· ≠ '\n')) = [] := List.dropWhile_eq_nil_iff.2 h
  rw [isContinued, endsIn, hnil]
  rfl

theorem isContinued_eq_endsIn {s : Text} (h : ¬ AllBlank (s.takeWhile (· ≠ '\n'))) :
    isContinued s = endsIn '\\' s := by
  have hne : skipBlanks (s.takeWhile (· ≠ '\n')) ≠ [] := fun hnil => h (allBlank_of_skipBlanks hnil)
  obtain ⟨c, r, hc⟩ := List.exists_cons_of_ne_nil hne
  have hall : skipBlanks s = c :: (r ++ s.dropWhile (· ≠ '\n')) := by
    conv_lhs => rw [← List.takeWhile_append_dropWhile (p := (· ≠ '\n')) (l := s)]
    exact skipBlanks_append_of_cons hc _
  rw [isContinued, endsIn, endsIn, hc, hall]
  rfl

theorem isContinued_le_endsIn {s : Text} (h : endsIn '\\' s = false) : isContinued s = false := by
  by_cases hblank : AllBlank (s.takeWhile (· ≠ '\n'))
  · exact isContinued_of_allBlank hblank
  · rw [isContinued_eq_endsIn hblank, h]

namespace FoundDefine

variable {name t : Text}

theorem newline_notMem (d : FoundDefine name t) (hname : IsWord name) : '\n' ∉ d.opening := by
  obtain ⟨-, -, s, hopening, hs⟩ := (defineShape_eq_some_iff hname).1 d.shape
  obtain rfl : d.shown = s := List.append_cancel_right hs
  rw [newline_mem_iff d.text_eq d.mask_eq (by rw [d.length_before, List.length_reverse])
    d.length_opening]
  exact hopening.newline_notMem hname

theorem endsIn_of_cut (d : FoundDefine name t) (hname : IsWord name) {u v : Text}
    (h : d.text = u ++ '\n' :: v) : endsIn '\\' u.reverse = true := by
  rcases List.append_eq_append_iff.1 h with ⟨x, rfl, hx⟩ | ⟨x, hopening, hx⟩
  · rw [List.reverse_append]
    exact d.joined x v hx
  · cases x with
    | nil =>
      have hjoined := d.joined [] v hx.symm
      rw [hopening, List.append_nil] at hjoined
      exact hjoined
    | cons c x =>
      obtain ⟨rfl, -⟩ := List.cons.inj hx
      exact absurd (by rw [hopening]; simp) (d.newline_notMem hname)

theorem begins (d : FoundDefine name t) (hname : IsWord name) :
    d.before.reverse.head?.all (· == '\n') = true := by
  obtain ⟨hstart, -⟩ := (defineShape_eq_some_iff hname).1 d.shape
  have hmap : (mask t).map (· == '\n') = t.map (· == '\n') := map_newline_maskFrom 0 t
  rw [d.mask_eq] at hmap
  conv_rhs at hmap => rw [d.text_eq]
  simp only [List.map_append] at hmap
  have hbefore := (List.append_inj hmap (by simp [d.length_before])).1
  have hlast := congrArg List.getLast? hbefore
  rw [List.getLast?_map, List.getLast?_map, List.getLast?_reverse] at hlast
  have hall (o : Option Char) : o.all (· == '\n') = (o.map (· == '\n')).all id := by
    cases o <;> rfl
  rw [List.head?_reverse, hall, ← hlast, ← hall]
  exact hstart

theorem after_head (d : FoundDefine name t) : d.after.head?.all (· == '\n') = true := by
  rcases d.ends with hnil | ⟨r, hr, -⟩
  · rw [hnil]
    rfl
  · rw [hr]
    rfl

theorem logicalLine_iff (d : FoundDefine name t) (hname : IsWord name) :
    LogicalLine d.before.reverse d.text d.after ↔
      ¬ Continues d.before.reverse ∧ NoBlankLine d.text := by
  constructor
  · intro h
    refine ⟨h.fresh, fun u v huv hblank => ?_⟩
    have hjoined := h.joined u v huv
    rw [isContinued_of_allBlank hblank] at hjoined
    cases hjoined
  · rintro ⟨hfresh, hshown⟩
    refine ⟨d.begins hname, hfresh, fun u v huv => ?_, ?_, fun hafter => ?_⟩
    · rw [isContinued_eq_endsIn (hshown u v huv)]
      exact d.endsIn_of_cut hname huv
    · exact d.after_head
    · rcases d.ends with hnil | ⟨r, -, hend⟩
      · exact absurd hnil hafter
      · apply isContinued_le_endsIn
        rw [text, List.reverse_append, hend]

end FoundDefine

theorem found_logicalLine_iff {name t : Text} {s : Span} (hname : IsWord name)
    (h : findDefine name t = some s) :
    t = t.take s.start ++ (s.text ++ t.drop s.stop) ∧
      (t.take s.start).getLast?.all (· == '\n') = true ∧
      (t.drop s.stop).head?.all (· == '\n') = true ∧
      (LogicalLine (t.take s.start).reverse s.text (t.drop s.stop) ↔
        ¬ Continues (t.take s.start).reverse ∧ NoBlankLine s.text) := by
  obtain ⟨d, rfl⟩ := exists_found_define hname h
  have hbegins := d.begins hname
  rw [List.head?_reverse] at hbegins
  rw [d.take_start, d.drop_stop, d.text_span]
  exact ⟨d.text_split, hbegins, d.after_head, d.logicalLine_iff hname⟩

def spacedDefine : Text :=
  "int x; \\ y\n # define A(b) /* ; */ \\\t\n  b // \\\n  c\n\nint y;".toList

theorem spaced_define_is_logical_line :
    findDefine "A".toList spacedDefine = some (Span.cut spacedDefine 11 49) ∧
      LogicalLine (spacedDefine.take 11).reverse (spacedDefine.extract 11 49) (spacedDefine.drop 49) := by
  have h : findDefine "A".toList spacedDefine = some (Span.cut spacedDefine 11 49) := by
    decide +kernel
  obtain ⟨-, -, -, hiff⟩ := found_logicalLine_iff (by decide +kernel) h
  exact ⟨h, hiff.2 ⟨by decide +kernel, by decide +kernel⟩⟩

def overrunDefine : Text :=
  "#define A 1 \\\n\nint x;\n".toList

def continuedDefine : Text :=
  "#define B x \\\n#define A 1\n".toList

theorem define_beside_its_logical_line :
    findDefine "A".toList overrunDefine = some (Span.cut overrunDefine 0 21) ∧
      LogicalLine [] (overrunDefine.take 14) (overrunDefine.drop 14) ∧
      findDefine "A".toList continuedDefine = some (Span.cut continuedDefine 14 25) ∧
      LogicalLine [] (continuedDefine.take 25) (continuedDefine.drop 25) := by
  decide +kernel

end HeaderProbe
