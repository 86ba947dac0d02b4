import HeaderProbe.Proofs.Mask.Join
import HeaderProbe.Proofs.Source.Declarer
import HeaderProbe.Proofs.Source.PointerMember
import HeaderProbe.Proofs.Source.StatementHead

namespace HeaderProbe

open Text

theorem opensPointer_append {s : Text} (h : opensPointer s = true) (b : Text) :
    opensPointer (s ++ b) = true := by
  unfold opensPointer at h ⊢
  split at h
  · next r hskip =>
    obtain ⟨x, hx⟩ := List.head?_eq_some_iff.1 (beq_iff_eq.1 h)
    rw [skipBlanks_append_of_cons hskip]
    change ((skipBlanks (r ++ b)).head? == some '(') = true
    rw [skipBlanks_append_of_cons hx]
    rfl
  · cases h

theorem isDeclaredName_append {s b : Text} (h : isDeclaredName s = true)
    (hb : b.head?.any isWordChar = false) : isDeclaredName (s ++ b) = true := by
  rw [← List.reverse_reverse s] at h
  obtain ⟨u, a, v, hs, hu, hdeclarer⟩ := isDeclaredName_iff.1 h
  have hsplit : s ++ b = (b.reverse ++ u ++ (a ++ v)).reverse := by
    rw [← List.reverse_reverse s, hs]
    simp
  rw [hsplit, isDeclaredName_iff]
  refine ⟨b.reverse ++ u, a, v, rfl, ?_, hdeclarer⟩
  cases u with
  | nil => rwa [List.append_nil, List.getLast?_reverse]
  | cons c u => rwa [List.getLast?_append_of_ne_nil _ (List.cons_ne_nil c u)]

def declaresName (isPointer : Bool) (before : Text) : Bool :=
  if isPointer then opensPointer (before.take pointerWindow) else isDeclaredName before

theorem declaresName_append {isPointer : Bool} {s b : Text} (h : declaresName isPointer s = true)
    (hb : b.head?.any isWordChar = false) : declaresName isPointer (s ++ b) = true := by
  cases isPointer with
  | false => exact isDeclaredName_append h hb
  | true =>
    change opensPointer ((s ++ b).take pointerWindow) = true
    rw [List.take_append]
    exact opensPointer_append h _

inductive CallOpening (name : Text) : (isPointer : Bool) → Text → Prop where
  | plain {w : Text} (hw : AllBlank w) : CallOpening name false (name ++ (w ++ ['(']))
  | pointer {w w' : Text} (hw : AllBlank w) (hw' : AllBlank w') :
      CallOpening name true (name ++ (w ++ ')' :: (w' ++ ['('])))

theorem CallOpening.exists_tail {name u : Text} {isPointer : Bool} (h : CallOpening name isPointer u) :
    ∃ x, u = name ++ x := by
  cases h with
  | plain => exact ⟨_, rfl⟩
  | pointer => exact ⟨_, rfl⟩

theorem CallOpening.exists_paren {name u : Text} {isPointer : Bool} (h : CallOpening name isPointer u) :
    ∃ x, u = x ++ ['('] := by
  cases h with
  | @plain w => exact ⟨name ++ w, by simp⟩
  | @pointer w w' => exact ⟨name ++ (w ++ ')' :: w'), by simp⟩

theorem callShape_eq_some_iff {name r : Text} {isPointer : Bool} {p : Place} :
    callShape name p = some (isPointer, r) ↔
      mayBeginName p.before = true ∧ ∃ u, CallOpening name isPointer u ∧ p.after = u ++ r := by
  unfold callShape
  split
  · next hbegin =>
    simp only [hbegin, true_and, Option.bind_eq_bind, Option.bind_eq_some_iff,
      List.isPrefixOf?_eq_some_iff_append_eq]
    constructor
    · rintro ⟨x, hx, h⟩
      split at h
      · next hskip =>
        cases h
        obtain ⟨-, w, hw, rfl⟩ := skipBlanks_eq_cons_iff.1 hskip
        exact ⟨_, .plain hw, by rw [← hx]; simp⟩
      · next hskip =>
        split at h
        · next hskip' =>
          cases h
          obtain ⟨-, w', hw', rfl⟩ := skipBlanks_eq_cons_iff.1 hskip'
          obtain ⟨-, w, hw, rfl⟩ := skipBlanks_eq_cons_iff.1 hskip
          exact ⟨_, .pointer hw hw', by rw [← hx]; simp⟩
        · cases h
      · cases h
    · rintro ⟨u, hu, hafter⟩
      cases hu with
      | @plain w hw =>
        refine ⟨w ++ '(' :: r, by rw [hafter]; simp, ?_⟩
        rw [skipBlanks_append hw, skipBlanks_cons rfl]
        rfl
      | @pointer w w' hw hw' =>
        refine ⟨w ++ ')' :: (w' ++ '(' :: r), by rw [hafter]; simp, ?_⟩
        rw [skipBlanks_append hw, skipBlanks_cons rfl]
        simp only
        rw [skipBlanks_append hw', skipBlanks_cons rfl]
        rfl
  · next hbegin => simp [hbegin]

theorem afterTrailer_nil : afterTrailer [] = none := by
  unfold afterTrailer
  rfl

theorem callShape_append {name y v r b a : Text} {isPointer : Bool} (hb : mayBeginName b = true)
    (h : callShape name ⟨y, v⟩ = some (isPointer, r)) :
    callShape name ⟨y ++ b, v ++ a⟩ = some (isPointer, r ++ a) := by
  obtain ⟨hbegin, u, hu, hv⟩ := callShape_eq_some_iff.1 h
  refine callShape_eq_some_iff.2 ⟨?_, u, hu, ?_⟩
  · cases y with
    | nil => exact hb
    | cons c y => exact hbegin
  · rw [← List.append_assoc, ← hv]

theorem functionExtent?_ne_none_iff {e : Occurrence Bool} :
    functionExtent? e ≠ none ↔
      (inDirective e.place.before = false ∧ declaresName e.value e.place.before = true) ∧
        Bracket.paren.afterClose ('(' :: e.rest) ≠ none := by
  have hdeclares : declaresFunction e = true ↔
      inDirective e.place.before = false ∧ declaresName e.value e.place.before = true := by
    rw [← Bool.not_eq_true', ← Bool.and_eq_true]
    rfl
  rw [← hdeclares]
  simp only [functionExtent?]
  cases declaresFunction e with
  | false => simp [guard]
  | true => cases Bracket.paren.afterClose ('(' :: e.rest) <;> simp

structure FoundFunction (name t : Text) (o : Occurrence Bool) where
  before : Text
  opening : Text
  parameters : Text
  after : Text
  place_eq : o.place =
    ⟨(statementHead o.place.before).reverse ++ before, opening ++ (parameters ++ after)⟩
  text_eq : o.place.text = mask t
  rest_eq : o.rest = parameters ++ after
  begins : mayBeginName before = true
  opens : CallOpening name o.value opening
  closes : ∃ trailer, Bracket.paren.afterClose ('(' :: parameters) = some trailer ∧
    (afterTrailer trailer).getD trailer = []
  ends : ∃ c, parameters.getLast? = some c ∧ isBlank c = false

namespace FoundFunction

variable {name t : Text} {o : Occurrence Bool}

def head (_ : FoundFunction name t o) : Text :=
  statementHead o.place.before

def piece (d : FoundFunction name t o) : Text :=
  d.head ++ (d.opening ++ d.parameters)

def span (d : FoundFunction name t o) : Span :=
  Span.cut t d.before.length (d.before.length + d.piece.length)

def copy (d : FoundFunction name t o) : Occurrence Bool :=
  ⟨⟨d.head.reverse, d.opening ++ d.parameters⟩, o.value, d.parameters⟩

theorem before_eq (d : FoundFunction name t o) : o.place.before = d.head.reverse ++ d.before :=
  congrArg Place.before d.place_eq

theorem mask_eq (d : FoundFunction name t o) : mask t = d.before.reverse ++ (d.piece ++ d.after) := by
  rw [← d.text_eq, d.place_eq, Place.text]
  simp [piece, head]

theorem piece_head (d : FoundFunction name t o) (hname : IsWord name) :
    ∃ c r, d.piece = c :: r ∧ isBlank c = false ∧ (c = '#' ↔ d.head.head? = some '#') := by
  have hskip : skipBlanks d.head = d.head := skipBlanks_statementHead o.place.before
  cases hhead : d.head with
  | cons c r =>
    rw [hhead] at hskip
    exact ⟨c, _, by rw [piece, hhead]; rfl, isBlank_of_skipBlanks hskip, by simp⟩
  | nil =>
    obtain ⟨c, r, rfl⟩ := List.exists_cons_of_ne_nil hname.1
    have hc : isWordChar c = true := hname.isWordChar (List.mem_cons_self ..)
    have hhash : c ≠ '#' := isWordChar_ne hc (by decide +kernel)
    obtain ⟨x, hx⟩ := d.opens.exists_tail
    refine ⟨c, r ++ x ++ d.parameters, by rw [piece, hhead, hx]; rfl, isBlank_of_isWordChar hc, ?_⟩
    simp [hhash]

theorem text_span (d : FoundFunction name t o) :
    d.span.text = (t.drop d.before.length).take d.piece.length := by
  rw [span, Span.cut, Nat.add_sub_cancel_left]

theorem mask_text (d : FoundFunction name t o) (hname : IsWord name) : mask d.span.text = d.piece := by
  obtain ⟨c, r, hpiece, hc, -⟩ := d.piece_head hname
  obtain ⟨e, hlast, he⟩ := d.ends
  have hdrop : (mask t).drop d.before.length = d.piece ++ d.after := by
    rw [d.mask_eq, List.drop_left' (by simp)]
  have hfirst : (mask t)[d.before.length]? = some c := by
    rw [← List.head?_drop, hdrop, hpiece]
    rfl
  have hend : (mask t)[d.before.length + r.length]? = some e := by
    have hlen : r.length < d.piece.length := by rw [hpiece]; simp
    rw [← List.getElem?_drop, hdrop, List.getElem?_append_left hlen]
    have hget : d.piece.getLast? = some e := by
      rw [piece, ← List.append_assoc, List.getLast?_append, hlast]
      rfl
    rw [List.getLast?_eq_getElem?, hpiece] at hget
    rw [hpiece]
    simpa using hget
  rw [d.text_span, hpiece, List.length_cons, mask_drop_take hfirst hc hend he, hdrop, ← List.length_cons,
    ← hpiece, List.take_left]

theorem length_text (d : FoundFunction name t o) (hname : IsWord name) :
    d.span.text.length = d.piece.length := by
  rw [← length_mask, d.mask_text hname]

theorem copy_mem (d : FoundFunction name t o) (hname : IsWord name)
    (ho : o ∈ (Place.start (mask t)).occurrences (callShape name)) :
    d.copy ∈ (Place.start (mask d.span.text)).occurrences (callShape name) := by
  have hshape := Place.shape_of_mem ho
  rw [d.place_eq] at hshape
  obtain ⟨hbegin, -⟩ := callShape_eq_some_iff.1 hshape
  have hbegin' : mayBeginName d.head.reverse = true := by
    have hcut : mayBeginName (d.head.reverse ++ d.before) = true := hbegin
    cases h : d.head.reverse with
    | nil => rfl
    | cons c r =>
      rw [h] at hcut
      exact hcut
  have htext : d.copy.place.text = mask d.span.text := by
    rw [d.mask_text hname, copy, Place.text, piece, List.reverse_reverse]
  rw [← htext]
  exact Place.mem_occurrences_of_apart (callShape_apart hname)
    (callShape_eq_some_iff.2 ⟨hbegin', _, d.opens, rfl⟩)

theorem copy_place (d : FoundFunction name t o) (hname : IsWord name) :
    d.copy.place = Place.of (mask d.span.text) (o.place.offset - d.span.start) := by
  have hstart : d.span.start = d.before.length := rfl
  have hoffset : o.place.offset - d.span.start = d.head.length := by
    rw [Place.offset, d.before_eq, hstart, List.length_append, List.length_reverse, Nat.add_sub_cancel]
  rw [hoffset, d.mask_text hname, Place.of, piece, List.take_left, List.drop_left]
  rfl

theorem functionExtent?_copy (d : FoundFunction name t o) :
    functionExtent? d.copy =
      if inDirective d.head.reverse = false ∧ declaresName o.value d.head.reverse = true then
        some (statementStart d.head.reverse, d.piece.length)
      else none := by
  obtain ⟨trailer, hclose, htrailer⟩ := d.closes
  have hdeclares : declaresFunction d.copy =
      (!inDirective d.head.reverse && declaresName o.value d.head.reverse) := rfl
  have hstop : d.copy.place.offset + d.copy.place.reach [] = d.piece.length := by
    simp [copy, Place.offset, Place.reach, piece]
  have hrest : d.copy.rest = d.parameters := rfl
  simp only [functionExtent?, hdeclares, hrest, hclose, htrailer, hstop, Option.bind_eq_bind,
    Option.bind_some, Bool.and_eq_true, Bool.not_eq_true']
  split
  · next h => simp [h, copy]
  · next h => simp [guard, h]

end FoundFunction

theorem exists_found_function {name t : Text} {o : Occurrence Bool} {start stop : Nat}
    (ho : o ∈ (Place.start (mask t)).occurrences (callShape name))
    (h : functionExtent? o = some (start, stop)) :
    ∃ d : FoundFunction name t o, start = d.before.length ∧ stop = d.before.length + d.piece.length := by
  simp only [functionExtent?, Option.bind_eq_bind, Option.bind_eq_some_iff, Option.pure_def,
    Option.some.injEq, Prod.mk.injEq] at h
  obtain ⟨-, -, close, hclose, rfl, rfl⟩ := h
  obtain ⟨-, opening, hopens, hafter⟩ := callShape_eq_some_iff.1 (Place.shape_of_mem ho)
  obtain ⟨arguments, hbalanced, hrest⟩ := Bracket.afterClose_eq_some_iff.1 hclose
  obtain ⟨w, b, hbefore, hw, hbound⟩ := exists_before_statementHead o.place.before
  obtain ⟨trailer, after, hsplit, hend, htrailer, hlast⟩ : ∃ trailer after, close = trailer ++ after ∧
      (afterTrailer close).getD close = after ∧ (afterTrailer trailer).getD trailer = [] ∧
        ∃ c, (')' :: trailer).getLast? = some c ∧ isBlank c = false := by
    cases htrailer : afterTrailer close with
    | none => exact ⟨[], close, rfl, rfl, by rw [afterTrailer_nil]; rfl, ')', rfl, rfl⟩
    | some after =>
      obtain ⟨z, hz, rfl⟩ := afterTrailer_eq_some_iff.1 htrailer
      refine ⟨z ++ [';'], after, by simp, rfl, ?_, ';', ?_, rfl⟩
      · rw [(hz.afterTrailer_eq []).1]
        rfl
      · rw [← List.cons_append, List.getLast?_append]
        rfl
  have hparameters : o.rest = (arguments ++ ')' :: trailer) ++ after := by
    rw [hrest, hsplit]
    simp
  refine ⟨⟨w ++ b, opening, arguments ++ ')' :: trailer, after, ?_, Place.text_of_mem ho, hparameters,
    mayBeginName_boundary hw hbound, hopens, ⟨trailer, Bracket.afterClose_of_balanced hbalanced trailer,
      htrailer⟩, ?_⟩, ?_, ?_⟩
  · rw [← hbefore, ← hparameters, ← hafter]
  · obtain ⟨c, hc, hblank⟩ := hlast
    exact ⟨c, by rw [List.getLast?_append, hc]; rfl, hblank⟩
  · have hlen := congrArg List.length hbefore
    rw [List.length_append, List.length_reverse] at hlen
    rw [statementStart, hlen, Nat.add_sub_cancel_left]
  · have hlen := congrArg List.length hbefore
    rw [List.length_append, List.length_reverse] at hlen
    have hafter' := congrArg List.length hafter
    rw [hparameters] at hafter'
    simp only [hend, Place.offset, Place.reach, FoundFunction.piece, FoundFunction.head,
      List.length_append, List.length_cons] at hlen hafter' ⊢
    omega

theorem exists_of_findFunction_at {name t : Text} {s : Span} (h : findFunction name t = some s) :
    ∃ o ∈ (Place.start (mask t)).occurrences (callShape name), functionPlace? name t = some o.place ∧
      ∃ d : FoundFunction name t o, s = d.span := by
  obtain ⟨⟨start, stop⟩, hfound, rfl⟩ := Option.map_eq_some_iff.1 h
  obtain ⟨before, o, after, hsplit, hextent, hbefore⟩ := List.findSome?_eq_some_iff.1 hfound
  have ho : o ∈ (Place.start (mask t)).occurrences (callShape name) := by
    rw [hsplit]
    exact List.mem_append_right before (List.mem_cons_self ..)
  have hfirst : ((Place.start (mask t)).occurrences (callShape name)).find?
      (fun e => (functionExtent? e).isSome) = some o :=
    List.find?_eq_some_iff_append.2 ⟨by rw [hextent]; rfl, before, after, hsplit, fun e he => by
      rw [hbefore e he]
      rfl⟩
  obtain ⟨d, rfl, rfl⟩ := exists_found_function ho hextent
  exact ⟨o, ho, by rw [functionPlace?, hfirst, Option.map_some], d, rfl⟩

structure DeclaredAlone (name t : Text) (s : Span) (o : Occurrence Bool) : Prop where
  code : s.text.head? ≠ some '#'
  declared : declaresName o.value (statementHead o.place.before).reverse = true
  unshadowed : inDirective (Place.of (mask t) s.start).before = true →
    ∀ e ∈ (Place.start (mask s.text)).occurrences (callShape name),
      s.start + e.place.offset < o.place.offset →
        inDirective (Place.of (mask t) (s.start + e.place.offset)).before = true → functionExtent? e = none

instance (name t : Text) (s : Span) (o : Occurrence Bool) : Decidable (DeclaredAlone name t s o) :=
  decidable_of_iff (_ ∧ _ ∧ _) ⟨fun ⟨h₁, h₂, h₃⟩ => ⟨h₁, h₂, h₃⟩, fun ⟨h₁, h₂, h₃⟩ => ⟨h₁, h₂, h₃⟩⟩

namespace FoundFunction

variable {name t : Text} {o : Occurrence Bool}

theorem text_head?_eq_hash_iff (d : FoundFunction name t o) (hname : IsWord name) :
    d.span.text.head? = some '#' ↔ d.head.head? = some '#' := by
  obtain ⟨c, r, hpiece, -, hhash⟩ := d.piece_head hname
  rw [← head?_mask_eq_some_iff rfl rfl, d.mask_text hname, hpiece, ← hhash, List.head?_cons,
    Option.some.injEq]

theorem piece_eq (d : FoundFunction name t o) (hname : IsWord name) {e : Occurrence Bool}
    (he : e ∈ (Place.start (mask d.span.text)).occurrences (callShape name)) :
    e.place.before.reverse ++ e.place.after = d.piece := by
  rw [← d.mask_text hname]
  exact Place.text_of_mem he

theorem inDirective_of_functionExtent? (d : FoundFunction name t o) (hname : IsWord name)
    (hfirst : ∀ e ∈ (Place.start (mask t)).occurrences (callShape name),
      e.place.offset < o.place.offset → functionExtent? e = none)
    {e : Occurrence Bool} (he : e ∈ (Place.start (mask d.span.text)).occurrences (callShape name))
    (hlt : e.place.offset < d.head.length) (hextent : functionExtent? e ≠ none) :
    inDirective (e.place.before ++ d.before) = true := by
  have hshape := callShape_append (a := d.after) d.begins (Place.shape_of_mem he)
  have htext : (⟨e.place.before ++ d.before, e.place.after ++ d.after⟩ : Place).text = mask t := by
    rw [d.mask_eq, ← d.piece_eq hname he, Place.text]
    simp
  have hmem := Place.mem_occurrences_of_apart (callShape_apart hname) hshape
  rw [htext] at hmem
  have hnone := hfirst _ hmem (by
    rw [d.place_eq]
    simp only [Place.offset, List.length_append, List.length_reverse]
    exact Nat.add_lt_add_right hlt _)
  obtain ⟨⟨-, hdeclares⟩, hcloses⟩ := functionExtent?_ne_none_iff.1 hextent
  obtain ⟨close, hclose⟩ := Option.ne_none_iff_exists'.1 hcloses
  have hclose' := Bracket.partner_append hclose d.after
  by_contra hdir
  refine functionExtent?_ne_none_iff.2 ⟨⟨by simpa using hdir, ?_⟩, ?_⟩ hnone
  · exact declaresName_append hdeclares (mayBeginName_left d.begins)
  · rw [← List.cons_append]
    exact Option.ne_none_iff_exists'.2 ⟨_, hclose'⟩

theorem before_of (d : FoundFunction name t o) (hname : IsWord name) {e : Occurrence Bool}
    (he : e ∈ (Place.start (mask d.span.text)).occurrences (callShape name)) :
    (Place.of (mask t) (d.span.start + e.place.offset)).before = e.place.before ++ d.before := by
  have hsplit : mask t = (d.before.reverse ++ e.place.before.reverse) ++ (e.place.after ++ d.after) := by
    rw [d.mask_eq, ← d.piece_eq hname he]
    simp
  have hlen : d.span.start + e.place.offset = (d.before.reverse ++ e.place.before.reverse).length := by
    simp [span, Span.cut, Place.offset]
  rw [Place.of, hsplit, hlen, List.take_left]
  simp

theorem start_before (d : FoundFunction name t o) : (Place.of (mask t) d.span.start).before = d.before := by
  have hlen : d.span.start = d.before.reverse.length := by simp [span, Span.cut]
  rw [Place.of, hlen, d.mask_eq, List.take_left, List.reverse_reverse]

theorem inDirective_before (d : FoundFunction name t o) (hname : IsWord name)
    (hcode : d.head.head? ≠ some '#') {e : Occurrence Bool}
    (he : e ∈ (Place.start (mask d.span.text)).occurrences (callShape name))
    (halone : inDirective e.place.before = false)
    (h : inDirective (e.place.before ++ d.before) = true) : inDirective d.before = true := by
  obtain ⟨c, r, hpiece, hc, hhash⟩ := d.piece_head hname
  have htext := d.piece_eq hname he
  rw [hpiece] at htext
  cases hbefore : e.place.before.reverse with
  | nil =>
    rw [List.reverse_eq_nil_iff.1 hbefore] at h
    exact h
  | cons b x =>
    rw [hbefore] at htext
    obtain ⟨rfl, -⟩ := List.cons.inj htext
    rw [List.reverse_eq_cons_iff.1 hbefore] at h halone
    rw [List.append_assoc] at h
    rcases inDirective_append_cons hc (fun hb => hcode (hhash.1 hb)) h with hdir | hdir
    · rw [halone] at hdir
      cases hdir
    · exact hdir

theorem requeried_iff (d : FoundFunction name t o) (hname : IsWord name)
    (ho : o ∈ (Place.start (mask t)).occurrences (callShape name))
    (h : functionPlace? name t = some o.place) :
    functionPlace? name d.span.text = some d.copy.place ∧
        findFunction name d.span.text = some ⟨d.span.text, 0, d.span.text.length, 1⟩ ↔
      DeclaredAlone name t d.span o := by
  obtain ⟨hfound, hfirst⟩ := (functionPlace?_eq_some_iff ho).1 h
  have hcopy := d.copy_mem hname ho
  have hplace := functionPlace?_eq_some_iff hcopy
  have hextent := d.functionExtent?_copy
  have hwhole : Span.cut d.span.text 0 d.piece.length = ⟨d.span.text, 0, d.span.text.length, 1⟩ := by
    rw [← d.length_text hname, cut_whole]
  have hoffset (n : Nat) : d.span.start + n < o.place.offset ↔ n < d.head.length := by
    have hstart : d.span.start = d.before.length := rfl
    rw [Place.offset, d.before_eq, List.length_append, List.length_reverse, hstart]
    omega
  constructor
  · rintro ⟨hstops, hwhole'⟩
    obtain ⟨hsome, hearlier⟩ := hplace.1 hstops
    rw [hextent] at hsome
    split at hsome
    · next hdeclares =>
      rw [if_pos hdeclares] at hextent
      have hcut := findFunction_of_functionPlace? hcopy hextent hstops
      rw [hwhole', Option.some.injEq] at hcut
      have hstart : statementStart d.head.reverse = 0 := (congrArg Span.start hcut).symm
      refine ⟨fun hhash => ?_, hdeclares.2, fun _ e he hlt _ => hearlier e he ?_⟩
      · rcases inDirective_or_statementStart ((d.text_head?_eq_hash_iff hname).1 hhash) with hdir | hne
        · have hoff := hdeclares.1
          rw [head, hdir] at hoff
          cases hoff
        · exact hne hstart
      · have hlt' := (hoffset _).1 hlt
        simpa [copy, Place.offset] using hlt'
    · cases hsome
  · rintro ⟨hcode, hdeclared, hunshadowed⟩
    have hhead : d.head.head? ≠ some '#' := fun h => hcode ((d.text_head?_eq_hash_iff hname).2 h)
    have hoff : inDirective o.place.before = false :=
      (functionExtent?_ne_none_iff.1 (Option.isSome_iff_ne_none.1 hfound)).1.1
    have hstart : statementStart d.head.reverse = 0 := by
      rw [statementStart, head, statementHead_statementHead hhead]
      simp
    rw [if_pos ⟨inDirective_statementHead hhead hoff, hdeclared⟩, hstart] at hextent
    have hstops : functionPlace? name d.span.text = some d.copy.place := by
      refine hplace.2 ⟨by rw [hextent]; rfl, fun e he hlt => ?_⟩
      have hlt' : e.place.offset < d.head.length := by simpa [copy, Place.offset] using hlt
      by_contra hne
      have hdir := d.inDirective_of_functionExtent? hname hfirst he hlt' hne
      have hbegins := d.inDirective_before hname hhead he (functionExtent?_ne_none_iff.1 hne).1.1 hdir
      rw [← d.before_of hname he] at hdir
      rw [← d.start_before] at hbegins
      exact hne (hunshadowed hbegins e he ((hoffset _).2 hlt') hdir)
    refine ⟨hstops, ?_⟩
    rw [findFunction_of_functionPlace? hcopy hextent hstops, hwhole]

end FoundFunction

end HeaderProbe
