import HeaderProbe.Proofs.Source.Fragment
import HeaderProbe.Proofs.Text.Occurrence
import HeaderProbe.Proofs.Text.Word

namespace HeaderProbe

open Text

theorem exists_gap_of_skipBlanks {s t : Text} (h : skipBlanks s = t) :
    ∃ gap, s = gap ++ t ∧ ∀ c ∈ gap, isWordChar c = false := by
  refine ⟨s.takeWhile isBlank, ?_, fun c hc => isWordChar_of_isBlank (List.mem_takeWhile_imp hc)⟩
  rw [← h]
  exact (List.takeWhile_append_dropWhile ..).symm

theorem exists_gap_of_callShape {name r : Text} {p : Place} {isPointer : Bool}
    (h : callShape name p = some (isPointer, r)) :
    mayBeginName p.before = true ∧
      ∃ gap, p.after = name ++ (gap ++ r) ∧ gap ≠ [] ∧ ∀ c ∈ gap, isWordChar c = false := by
  have hopen : isWordChar '(' = false := by decide +kernel
  have hclose : isWordChar ')' = false := by decide +kernel
  unfold callShape at h
  split at h
  · next hbegin =>
    refine ⟨hbegin, ?_⟩
    obtain ⟨s, hs, h⟩ := Option.bind_eq_some_iff.1 h
    rw [List.isPrefixOf?_eq_some_iff_append_eq] at hs
    split at h
    · next r' hr' =>
      cases h
      obtain ⟨gap, rfl, hgap⟩ := exists_gap_of_skipBlanks hr'
      refine ⟨gap ++ ['('], by rw [← hs]; simp, by simp, ?_⟩
      exact List.forall_mem_append.2 ⟨hgap, by simpa using hopen⟩
    · next r' hr' =>
      split at h
      · next r'' hr'' =>
        cases h
        obtain ⟨gap, rfl, hgap⟩ := exists_gap_of_skipBlanks hr'
        obtain ⟨gap', rfl, hgap'⟩ := exists_gap_of_skipBlanks hr''
        refine ⟨gap ++ ')' :: (gap' ++ ['(']), by rw [← hs]; simp, by simp, ?_⟩
        refine List.forall_mem_append.2 ⟨hgap, List.forall_mem_cons.2 ⟨hclose, ?_⟩⟩
        exact List.forall_mem_append.2 ⟨hgap', by simpa using hopen⟩
      · cases h
    · cases h
  · cases h

theorem mayBeginName_of_word {u b : Text} {c : Char} (hlast : u.getLast? = some c)
    (hc : isWordChar c = true) : mayBeginName (u.reverse ++ b) = false := by
  have hhead : (u.reverse ++ b).head? = some c := by
    rw [List.head?_append, List.head?_reverse, hlast]
    rfl
  simp [mayBeginName, hhead, hc]

theorem mayBeginName_left {b : Text} (hb : mayBeginName b = true) : b.head?.any isWordChar = false := by
  cases b with
  | nil => rfl
  | cons c b =>
    cases hc : isWordChar c with
    | true => simp [mayBeginName, hc] at hb
    | false => exact hc

theorem callShape_apart {name : Text} (hname : IsWord name) : Place.Apart (callShape name) := by
  intro b s isPointer r h u v hs hu hv
  obtain ⟨-, gap, hafter, -, hgap⟩ := exists_gap_of_callShape h
  by_contra hsome
  obtain ⟨⟨_, r'⟩, hr'⟩ := Option.ne_none_iff_exists'.1 hsome
  obtain ⟨hbegin, gap', hafter', -⟩ := exists_gap_of_callShape hr'
  obtain ⟨first, tail, rfl⟩ := List.exists_cons_of_ne_nil hname.1
  have hfirst : isWordChar first = true := hname.isWordChar (List.mem_cons_self ..)
  dsimp only at hafter hafter'
  rw [hs, ← List.append_assoc] at hafter
  -- The second match begins in the gap behind the first one's name, where no word begins, or in that
  -- name, where a character of a word precedes it.
  rcases List.append_eq_append_iff.1 hafter.symm with ⟨x, rfl, rfl⟩ | ⟨y, hy, rfl⟩
  · rw [List.length_append] at hv
    omega
  · rcases List.append_eq_append_iff.1 hy with ⟨x, rfl, hx⟩ | ⟨z, hz, rfl⟩
    · cases y with
      | nil => simp at hv
      | cons d y =>
        obtain ⟨rfl, -⟩ := List.cons.inj hafter'
        have hd := hgap d (by rw [hx]; simp)
        rw [hfirst] at hd
        cases hd
    · obtain ⟨c, hc⟩ := Option.ne_none_iff_exists'.1 (mt List.getLast?_eq_none_iff.1 hu)
      have hmem : c ∈ first :: tail := by
        rw [hz]
        exact List.mem_append_left z (List.mem_of_getLast? hc)
      rw [mayBeginName_of_word hc (hname.isWordChar hmem)] at hbegin
      cases hbegin

def pointerParameters? (s : Text) : Option Text :=
  match skipBlanks s with
  | ')' :: r =>
      match skipBlanks r with
      | '(' :: r => some r
      | _ => none
  | _ => none

theorem callShape_of_nameShape {name s r : Text} {p : Place} (h : nameShape name p = some ((), s))
    (hr : pointerParameters? s = some r) : callShape name p = some (true, r) := by
  unfold nameShape at h
  split at h
  · next hbegin =>
    obtain ⟨s', hs', h⟩ := Option.bind_eq_some_iff.1 h
    obtain ⟨_, -, h⟩ := Option.bind_eq_some_iff.1 h
    cases h
    unfold pointerParameters? at hr
    rw [callShape, if_pos hbegin, hs']
    split at hr
    · next x hx =>
      split at hr
      · next y hy =>
        cases hr
        simp only [Option.bind_eq_bind, Option.bind_some, hx, hy]
      · cases hr
    · cases hr
  · cases h

structure PointerMember (field definition : Text) (o : Occurrence Unit) (parameters rest : Text) :
    Prop where
  first : ((bodyPlace (mask definition)).occurrences (nameShape field)).find? isMember = some o
  pointer : pointerParameters? o.rest = some parameters
  trailer : (Bracket.paren.afterClose ('(' :: parameters)).bind afterTrailer = some rest
  semicolon : o.rest.dropWhile (· ≠ ';') = ';' :: rest

def functionPlace? (name text : Text) : Option Place :=
  (((Place.start (mask text)).occurrences (callShape name)).find? fun e =>
    (functionExtent? e).isSome).map fun e => e.place

section

variable {name text : Text} {o : Occurrence Bool}
  (ho : o ∈ (Place.start (mask text)).occurrences (callShape name))
include ho

theorem functionPlace?_eq_some_iff :
    functionPlace? name text = some o.place ↔
      (functionExtent? o).isSome = true ∧
        ∀ e ∈ (Place.start (mask text)).occurrences (callShape name),
          e.place.offset < o.place.offset → functionExtent? e = none := by
  have hfind : functionPlace? name text = some o.place ↔
      ((Place.start (mask text)).occurrences (callShape name)).find?
        (fun e => (functionExtent? e).isSome) = some o := by
    constructor
    · intro h
      obtain ⟨e, he, hplace⟩ := Option.map_eq_some_iff.1 h
      rwa [← Place.eq_of_place_eq (List.mem_of_find?_eq_some he) ho hplace]
    · intro h
      rw [functionPlace?, h, Option.map_some]
  rw [hfind, Place.find?_occurrences_eq_some_iff ho]
  simp only [Option.isSome_eq_false_iff, Option.isNone_iff_eq_none]

theorem findFunction_of_functionPlace? {start stop : Nat} (he : functionExtent? o = some (start, stop))
    (h : functionPlace? name text = some o.place) :
    findFunction name text = some (Span.cut text start stop) := by
  obtain ⟨-, hearlier⟩ := (functionPlace?_eq_some_iff ho).1 h
  have hfirst : ((Place.start (mask text)).occurrences (callShape name)).findSome? functionExtent? =
      some (start, stop) :=
    Place.findSome?_occurrences_eq_some_iff.2 ⟨o, ho, he, hearlier⟩
  rw [findFunction, hfirst]
  rfl

end

theorem functionExtent?_pointer {p : Place} {parameters rest : Text}
    (h : (Bracket.paren.afterClose ('(' :: parameters)).bind afterTrailer = some rest) :
    functionExtent? ⟨p, true, parameters⟩ =
      if inDirective p.before = false ∧ opensPointer (p.before.take pointerWindow) = true then
        some (statementStart p.before, p.offset + p.reach rest)
      else none := by
  obtain ⟨close, hclose, htrailer⟩ := Option.bind_eq_some_iff.1 h
  simp only [functionExtent?, declaresFunction, hclose, htrailer, Option.bind_eq_bind, Option.bind_some,
    Option.getD_some, if_true, Bool.and_eq_true, Bool.not_eq_true']
  split
  · next hdeclares => simp [hdeclares]
  · next hdeclares => simp [guard, hdeclares]

namespace PointerMember

variable {type field t definition parameters rest : Text} {o : Occurrence Unit}

theorem text_eq (h : PointerMember field definition o parameters rest) :
    o.place.text = mask definition := by
  rw [Place.text_of_mem (List.mem_of_find?_eq_some h.first), bodyPlace, Place.text_of]

theorem mem_occurrences (h : PointerMember field definition o parameters rest) (hfield : IsWord field) :
    ⟨o.place, true, parameters⟩ ∈ (Place.start (mask definition)).occurrences (callShape field) := by
  rw [← h.text_eq]
  exact Place.mem_occurrences_of_apart (callShape_apart hfield)
    (callShape_of_nameShape (Place.shape_of_mem (List.mem_of_find?_eq_some h.first)) h.pointer)

theorem memberExtent?_eq (h : PointerMember field definition o parameters rest) :
    memberExtent? field definition =
      some (statementStart o.place.before, o.place.offset + o.place.reach rest) := by
  have hlen : rest.length + 1 ≤ o.place.after.length := by
    have hsuffix := (List.dropWhile_suffix (l := o.rest) (· ≠ ';')).trans
      (nameShape_suffix (Place.shape_of_mem (List.mem_of_find?_eq_some h.first)))
    rw [h.semicolon] at hsuffix
    exact hsuffix.length_le
  have hstop : o.place.offset + o.place.reach (';' :: rest) + 1 = o.place.offset + o.place.reach rest := by
    simp only [Place.reach, List.length_cons]
    omega
  simp only [memberExtent?, h.first, h.semicolon, Option.bind_eq_bind, Option.bind_some, hstop]
  rfl

end PointerMember

theorem pointer_member_found_by_name_iff {type field t parameters rest : Text} {struct : Span}
    {o : Occurrence Unit} (hfield : IsWord field) (hstruct : findStruct type t = some struct)
    (h : PointerMember field struct.text o parameters rest) :
    ∃ m, findMember type field t = some m ∧
      (functionPlace? field struct.text = some o.place ↔
        inDirective o.place.before = false ∧
          opensPointer (o.place.before.take pointerWindow) = true ∧
          ∀ e ∈ (Place.start (mask struct.text)).occurrences (callShape field),
            e.place.offset < o.place.offset → functionExtent? e = none) ∧
      (functionPlace? field struct.text = some o.place →
        ∃ s, findFunction field struct.text = some s ∧ s.text = m.text ∧
          struct.start + s.start = m.start ∧ struct.start + s.stop = m.stop) := by
  have hmem := h.mem_occurrences hfield
  have hplace := functionPlace?_eq_some_iff hmem
  have hextent := functionExtent?_pointer (p := o.place) h.trailer
  have hmember := h.memberExtent?_eq
  refine ⟨_, by rw [findMember, hstruct, Option.bind_eq_bind, Option.bind_some, hmember]; rfl, ?_,
    fun hstops => ?_⟩
  · rw [hplace, hextent, ← and_assoc]
    refine and_congr_left fun _ => ?_
    split <;> simp [*]
  · have hsome := (hplace.1 hstops).1
    rw [hextent] at hsome
    split at hsome
    · next hdeclares =>
      rw [if_pos hdeclares] at hextent
      refine ⟨_, findFunction_of_functionPlace? hmem hextent hstops, ?_, rfl, rfl⟩
      obtain ⟨a, b, rfl⟩ : ∃ a b, struct = Span.cut t a b := by
        obtain ⟨_, hs⟩ := exists_definition hstruct
        exact ⟨_, _, hs⟩
      exact text_cut_cut (memberExtent?_le hmember)
    · cases hsome

def annotatedOps : Text :=
  "struct s \x7b int (*g)(int a); int (* /* ( */ f )(int a) __b; \x7d".toList

theorem pointer_member_found_past_comment :
    (findMember "s".toList "f".toList (annotatedOps ++ [';'])).map Span.text =
        some "int (* /* ( */ f )(int a) __b;".toList ∧
      (findFunction "f".toList annotatedOps).map Span.text =
        some "int (* /* ( */ f )(int a) __b;".toList := by
  have hstruct : findStruct "s".toList (annotatedOps ++ [';']) = some ⟨annotatedOps, 0, 60, 1⟩ := by
    decide +kernel
  have h : PointerMember "f".toList annotatedOps
      ⟨Place.of (mask annotatedOps) 43, (), " )(int a) __b; \x7d".toList⟩ "int a) __b; \x7d".toList
      " \x7d".toList :=
    ⟨by decide +kernel, by decide +kernel, by decide +kernel, by decide +kernel⟩
  obtain ⟨m, hm, hiff, hfound⟩ := pointer_member_found_by_name_iff (by decide +kernel) hstruct h
  obtain ⟨s, hs, htext, -⟩ := hfound (hiff.2 (by decide +kernel))
  have hmember : (findMember "s".toList "f".toList (annotatedOps ++ [';'])).map Span.text =
      some "int (* /* ( */ f )(int a) __b;".toList := by
    decide +kernel
  refine ⟨hmember, ?_⟩
  rw [hs, Option.map_some, htext, ← hmember, hm, Option.map_some]

def callbackOps : Text :=
  "struct s \x7b int (*a)(int (*f)(int)); int (*f)(int x); \x7d".toList

def spacedOps : Text :=
  "struct s \x7b int (*".toList ++ List.replicate 80 ' ' ++ "f)(int x); \x7d".toList

theorem pointer_member_missed_by_name :
    (findMember "s".toList "f".toList (callbackOps ++ [';'])).map Span.text =
        some "int (*f)(int x);".toList ∧
      (findStruct "s".toList (callbackOps ++ [';'])).map Span.text = some callbackOps ∧
      (findFunction "f".toList callbackOps).map Span.text = some "int (*a)(int (*f)(int)".toList ∧
      (findMember "s".toList "f".toList (spacedOps ++ [';'])).isSome = true ∧
      (findStruct "s".toList (spacedOps ++ [';'])).map Span.text = some spacedOps ∧
      findFunction "f".toList spacedOps = none := by
  decide +kernel

end HeaderProbe
