import HeaderProbe.Proofs.Source.FirstDefinition
import HeaderProbe.Proofs.Source.FunctionFragment
import HeaderProbe.Proofs.Source.InstanceHead
import HeaderProbe.Proofs.Source.Initializer

namespace HeaderProbe

open Text

inductive LookupFailure where
  | outside
  | noBracket
  | noWord
  | noBrace
  deriving DecidableEq, Repr

abbrev Lookup (α : Type) := Except LookupFailure α

namespace Checked

def afterClose : Text → Lookup (Option Text)
  | [] => throw .outside
  | c :: r =>
      match Bracket.ofOpening? c with
      | none => throw .noBracket
      | some b => return b.afterClose (c :: r)

def beforeOpen : Text → Lookup (Option Text)
  | [] => throw .outside
  | c :: r =>
      match Bracket.ofClosing? c with
      | none => throw .noBracket
      | some b => return b.beforeOpen (c :: r)

def firstChar : Text → Lookup Char
  | [] => throw .noWord
  | c :: _ => return c

def isDeclaredName (before : Text) : Lookup Bool :=
  match before.dropWhile fun c => isBlank c || c == '*' with
  | [] => return false
  | c :: r =>
      if c = ')' then do
        let opened ← beforeOpen (c :: r)
        return opened.any fun b => beginsAttribute (wordBefore b)
      else if isWordChar c then
        let word := wordBefore (c :: r)
        if notTypes.contains word then return false
        else do
          let first ← firstChar word
          return !isDigit first
      else return false

theorem afterClose_opening (b : Bracket) (s : Text) :
    afterClose (b.opening :: s) = .ok (b.afterClose (b.opening :: s)) := by
  simp only [afterClose, Bracket.ofOpening?_opening]
  rfl

theorem afterClose_paren {s : Text} (h : s.head? = some '(') :
    afterClose s = .ok (Bracket.paren.afterClose s) := by
  obtain ⟨r, rfl⟩ := List.head?_eq_some_iff.1 h
  exact afterClose_opening .paren r

theorem beforeOpen_closing (b : Bracket) (s : Text) :
    beforeOpen (b.closing :: s) = .ok (b.beforeOpen (b.closing :: s)) := by
  cases b <;> rfl

theorem length_lt_of_afterClose {s r : Text} (h : afterClose s = .ok (some r)) : r.length < s.length := by
  cases s with
  | nil => cases h
  | cons c s =>
    simp only [afterClose] at h
    split at h
    · cases h
    · exact Bracket.length_partner_lt (Except.ok.inj h)

theorem isDeclaredName_eq (before : Text) :
    isDeclaredName before = .ok (HeaderProbe.isDeclaredName before) := by
  simp only [isDeclaredName, HeaderProbe.isDeclaredName]
  cases before.dropWhile fun c => isBlank c || c == '*' with
  | nil => rfl
  | cons c r =>
    by_cases hc : c = ')'
    · subst hc
      have hopen : beforeOpen (')' :: r) = .ok (Bracket.paren.beforeOpen (')' :: r)) :=
        beforeOpen_closing .paren r
      simp only [if_true, hopen]
      rfl
    · simp only [if_neg hc]
      by_cases hword : isWordChar c = true
      · have hskip : skipBlanks (c :: r) = c :: r := skipBlanks_cons (isBlank_of_isWordChar hword) r
        obtain ⟨d, w, hw⟩ : ∃ d w, wordBefore (c :: r) = d :: w := by
          refine List.exists_cons_of_ne_nil ?_
          simp [wordBefore, hskip, hword]
        simp only [if_pos hword, hw]
        cases notTypes.contains (d :: w) <;> rfl
      · simp only [if_neg hword]
        rfl

def afterTrailer (s : Text) : Lookup (Option Text) :=
  match ha : afterAttribute s with
  | none =>
      match skipBlanks s with
      | ';' :: r => return some r
      | _ => return none
  | some r =>
      have := length_afterAttribute_lt ha
      have := length_skipBlanks_le r
      if (skipBlanks r).head? = some '(' then
        match hc : afterClose (skipBlanks r) with
        | .error failure => throw failure
        | .ok none => return none
        | .ok (some r') =>
            have := length_lt_of_afterClose hc
            afterTrailer r'
      else afterTrailer (skipBlanks r)
termination_by s.length

theorem afterTrailer_of_none {s : Text} (h : afterAttribute s = none) :
    afterTrailer s = .ok (match skipBlanks s with | ';' :: r => some r | _ => none) := by
  unfold afterTrailer
  split
  · split <;> rfl
  · next hsome =>
    rw [h] at hsome
    cases hsome

theorem afterTrailer_of_some {s r : Text} (h : afterAttribute s = some r) :
    afterTrailer s =
      if (skipBlanks r).head? = some '(' then do
        match ← afterClose (skipBlanks r) with
        | none => return none
        | some r => afterTrailer r
      else afterTrailer (skipBlanks r) := by
  conv_lhs => unfold afterTrailer
  split
  · next hnone =>
    rw [h] at hnone
    cases hnone
  · next r' hsome =>
    obtain rfl : r = r' := Option.some.inj (h.symm.trans hsome)
    split
    · split
      · next hclose =>
        rw [hclose]
        rfl
      · next hclose =>
        rw [hclose]
        rfl
      · next hclose =>
        change afterTrailer _ = _
        rw [hclose]
        rfl
    · rfl

theorem afterTrailer_eq (s : Text) : afterTrailer s = .ok (HeaderProbe.afterTrailer s) := by
  fun_induction HeaderProbe.afterTrailer s with
  | case1 s hattr r hskip =>
    rw [afterTrailer_of_none hattr, hskip]
    rfl
  | case2 s hattr hskip =>
    rw [afterTrailer_of_none hattr]
    split
    · next hsemicolon => exact absurd hsemicolon (hskip _)
    · rfl
  | case3 s r hattr _ _ hopen hclose =>
    rw [afterTrailer_of_some hattr, if_pos hopen, afterClose_paren hopen, hclose]
    rfl
  | case4 s r hattr _ _ hopen rest hclose _ ih =>
    rw [afterTrailer_of_some hattr, if_pos hopen, afterClose_paren hopen, hclose]
    exact ih
  | case5 s r hattr _ _ hopen ih =>
    rw [afterTrailer_of_some hattr, if_neg hopen]
    exact ih

theorem findSomeM?_eq {α β : Type} {f : α → Lookup (Option β)} {g : α → Option β} {l : List α}
    (h : ∀ a ∈ l, f a = .ok (g a)) : l.findSomeM? f = .ok (l.findSome? g) := by
  induction l with
  | nil => rfl
  | cons a l ih =>
    obtain ⟨ha, hl⟩ := List.forall_mem_cons.1 h
    rw [List.findSomeM?_cons, List.findSome?_cons, ha, ih hl]
    cases g a <;> rfl

theorem filterMapM_eq {α β : Type} {f : α → Lookup (Option β)} {g : α → Option β} {l : List α}
    (h : ∀ a ∈ l, f a = .ok (g a)) : l.filterMapM f = .ok (l.filterMap g) := by
  induction l with
  | nil => rfl
  | cons a l ih =>
    obtain ⟨ha, hl⟩ := List.forall_mem_cons.1 h
    rw [List.filterMapM_cons, List.filterMap_cons, ha, ih hl]
    cases g a <;> rfl

def afterMatch {α : Type} (masked : Text) (o : Occurrence α) : Lookup (Option Text) :=
  afterClose (masked.drop (o.stop - 1))

theorem afterMatch_eq {α : Type} {shape : Shape α} {masked : Text} {o : Occurrence α} (b : Bracket)
    (ho : o ∈ (Place.start masked).occurrences shape) (h : b.opening :: o.rest <:+ o.place.after) :
    afterMatch masked o = .ok (b.afterClose (b.opening :: o.rest)) := by
  obtain ⟨u, hu⟩ := h
  have htext : o.place.before.reverse ++ (u ++ b.opening :: o.rest) = masked := by
    rw [hu]
    exact Place.text_of_mem ho
  have hstop : o.stop - 1 = (o.place.before.reverse ++ u).length := by
    rw [Occurrence.stop, Place.offset, Place.reach, ← hu]
    simp only [List.length_append, List.length_cons, List.length_reverse]
    omega
  rw [afterMatch, hstop, ← htext, ← List.append_assoc, List.drop_left]
  exact afterClose_opening b o.rest

def declaresName (isPointer : Bool) (before : Text) : Lookup Bool :=
  if isPointer then return opensPointer (before.take pointerWindow) else isDeclaredName before

theorem declaresName_eq (isPointer : Bool) (before : Text) :
    declaresName isPointer before = .ok (HeaderProbe.declaresName isPointer before) := by
  rw [declaresName, isDeclaredName_eq]
  cases isPointer <;> rfl

def functionExtent (masked : Text) (o : Occurrence Bool) : Lookup (Option (Nat × Nat)) :=
  if inDirective o.place.before then return none
  else do
    if ← declaresName o.value o.place.before then
      match ← afterMatch masked o with
      | none => return none
      | some close =>
          let rest := (← afterTrailer close).getD close
          return some (statementStart o.place.before, o.place.offset + o.place.reach rest)
    else return none

def findFunction (name text : Text) : Lookup (Option Span) := do
  let masked := mask text
  let extent ← ((Place.start masked).occurrences (callShape name)).findSomeM? (functionExtent masked)
  return extent.map fun (start, stop) => Span.cut text start stop

def bodyExtent (masked : Text) (o : Occurrence Unit) : Lookup (Option (Nat × Nat)) := do
  let close ← afterMatch masked o
  return close.map fun close => (o.place.offset, o.place.offset + o.place.reach close)

def findBody (keyword name text : Text) : Lookup (Option Span) := do
  let masked := mask text
  let extent ← ((Place.start masked).occurrences (bodyShape keyword name)).findSomeM? (bodyExtent masked)
  return extent.map fun (start, stop) => Span.cut text start stop

def findStruct : (name text : Text) → Lookup (Option Span) :=
  findBody "struct".toList

def findEnum : (name text : Text) → Lookup (Option Span) :=
  findBody "enum".toList

def findMember (type field text : Text) : Lookup (Option Span) := do
  match ← findStruct type text with
  | none => return none
  | some struct =>
      if '{' ∈ mask struct.text then
        return (memberExtent? field struct.text).map fun (start, stop) =>
          Span.cut text (struct.start + start) (struct.start + stop)
      else throw .noBrace

def valueExtent (field masked : Text) (o : Occurrence Text) : Lookup (Option (Nat × Nat)) := do
  match ← afterMatch masked o with
  | none => return none
  | some close =>
      return (findDesignator field 0 (o.rest.length - close.length - 1) o.rest).map fun rest =>
        let value := rest.take (expressionLength 0 (rest.length - close.length - 1) rest)
        let start := o.place.offset + o.place.reach rest
        (start, start + (trimEnd value).length)

def findInitializers (type field text : Text) (wanted : Option Text) : Lookup (List Span) := do
  let masked := mask text
  let os := (Place.start masked).occurrences (instanceShape type)
  let extents ← (os.filter fun o => wanted.all (· == o.value)).filterMapM (valueExtent field masked)
  return extents.map fun (start, stop) => Span.cut text start stop

section

variable {keyword name type field t : Text}

theorem functionExtent_eq {o : Occurrence Bool}
    (ho : o ∈ (Place.start (mask t)).occurrences (callShape name)) :
    functionExtent (mask t) o = .ok (functionExtent? o) := by
  obtain ⟨-, u, hu, hafter⟩ := callShape_eq_some_iff.1 (Place.shape_of_mem ho)
  obtain ⟨x, rfl⟩ := hu.exists_paren
  have hopen : Bracket.paren.opening :: o.rest <:+ o.place.after :=
    ⟨x, by rw [hafter]; simp [Bracket.opening]⟩
  have hdeclares : declaresFunction o =
      (!inDirective o.place.before && HeaderProbe.declaresName o.value o.place.before) := rfl
  rw [functionExtent, functionExtent?, hdeclares, declaresName_eq, afterMatch_eq .paren ho hopen]
  cases inDirective o.place.before with
  | true => rfl
  | false =>
    cases HeaderProbe.declaresName o.value o.place.before with
    | false => rfl
    | true =>
      simp only [Bracket.opening]
      cases Bracket.paren.afterClose ('(' :: o.rest) with
      | none => rfl
      | some close =>
        change (do let trailer ← afterTrailer close; _ : Lookup (Option (Nat × Nat))) = _
        rw [afterTrailer_eq]
        rfl

theorem findFunction_eq (name t : Text) : findFunction name t = .ok (HeaderProbe.findFunction name t) := by
  rw [findFunction, findSomeM?_eq fun o ho => functionExtent_eq ho]
  rfl

theorem findBody_eq (hkeyword : IsWord keyword) (hname : IsWord name) (t : Text) :
    findBody keyword name t = .ok (HeaderProbe.findBody keyword name t) := by
  have hextent : ∀ o ∈ (Place.start (mask t)).occurrences (bodyShape keyword name),
      bodyExtent (mask t) o = .ok (bodyExtent? o) := by
    intro o ho
    obtain ⟨-, u, -, hafter⟩ := (bodyShape_iff_head hkeyword hname).1 (Place.shape_of_mem ho)
    rw [bodyExtent, bodyExtent?, afterMatch_eq .brace ho ⟨u, hafter.symm⟩]
    change Except.ok _ = _
    simp only [Bracket.opening]
    cases Bracket.brace.afterClose ('{' :: o.rest) <;> rfl
  rw [findBody, findSomeM?_eq hextent]
  rfl

theorem findStruct_eq (hname : IsWord name) (t : Text) :
    findStruct name t = .ok (HeaderProbe.findStruct name t) :=
  findBody_eq (by decide +kernel) hname t

theorem findEnum_eq (hname : IsWord name) (t : Text) : findEnum name t = .ok (HeaderProbe.findEnum name t) :=
  findBody_eq (by decide +kernel) hname t

theorem findMember_eq (htype : IsWord type) (field t : Text) :
    findMember type field t = .ok (HeaderProbe.findMember type field t) := by
  rw [findMember, findStruct_eq htype, HeaderProbe.findMember]
  cases hstruct : HeaderProbe.findStruct type t with
  | none => rfl
  | some struct =>
    have hopen : '{' ∈ mask struct.text := by
      obtain ⟨b, hb⟩ := exists_opensBody (by decide +kernel) htype hstruct
      rw [hb.mask_text (by decide +kernel) hstruct]
      simp
    change (if '{' ∈ mask struct.text then _ else _ : Lookup (Option Span)) = _
    rw [if_pos hopen]
    cases hextent : memberExtent? field struct.text <;> simp [hextent] <;> rfl

theorem findInitializers_eq (type field t : Text) (wanted : Option Text) :
    findInitializers type field t wanted = .ok (HeaderProbe.findInitializers type field t wanted) := by
  have hextent {o : Occurrence Text} (ho : o ∈ (Place.start (mask t)).occurrences (instanceShape type)) :
      valueExtent field (mask t) o = .ok (valueExtent? field o) := by
    have hopen := instanceShape_opening_suffix (Place.shape_of_mem ho)
    rw [valueExtent, valueExtent?, afterMatch_eq .brace ho hopen]
    simp only [Bracket.opening]
    cases Bracket.brace.afterClose ('{' :: o.rest) with
    | none => rfl
    | some close =>
      change Except.ok (Option.map _ (findDesignator field 0 (o.rest.length - close.length - 1) o.rest)) = _
      rw [Option.map_eq_bind]
      rfl
  rw [findInitializers, filterMapM_eq fun o ho => hextent (List.mem_filter.1 ho).1]
  rfl

end

end Checked

end HeaderProbe
