import HeaderProbe.Proofs.Source.MemberList
import HeaderProbe.Proofs.Source.StatementStart

namespace HeaderProbe

open Text

def FoundAt (p : Place) (field u v : Text) : Prop :=
  (p.occurrences (nameShape field)).find? isMember = some (mentionAt p field u v)

instance (p : Place) (field u v : Text) : Decidable (FoundAt p field u v) :=
  inferInstanceAs (Decidable (_ = _))

def UnreadBefore (p : Place) (field u : Text) : Prop :=
  ∀ x y, Met p field x y → x.length < u.length → isMember (mentionAt p field x y) = false

def Unended (s : Text) : Prop :=
  ∀ c ∈ s, endsStatement c = false

instance (s : Text) : Decidable (Unended s) :=
  decidable_of_iff (s.all (fun c => !endsStatement c) = true) (by simp [Unended])

def Worded (s : Text) : Prop :=
  ∀ c ∈ s, isWordChar c = true ∨ isBlank c = true

instance (s : Text) : Decidable (Worded s) :=
  decidable_of_iff (s.all (fun c => isWordChar c || isBlank c) = true) (by simp [Worded])

def Reads (x v : Text) : Prop :=
  if closesPointer v = true then parenDepth x = 1 ∧ opensPointer (skipBlanks x).reverse = true
  else parenDepth x = 0 ∧ endsDeclarator v = true

instance (x v : Text) : Decidable (Reads x v) :=
  inferInstanceAs (Decidable (ite _ _ _))

/-- Where a name stands that is no tag: behind `x` of its statement, which begins where one may. -/
structure Stands (p : Place) (u x : Text) : Prop where
  within : ∃ q, u = q ++ x ∧ EndsBeforeStatement (p.before.reverse ++ q) ∧ Unparted (p.before.reverse ++ q) x
  untagged : tagKeywords.contains (wordBefore (u.reverse ++ p.before)) = false

structure OnDirective (p : Place) (u x : Text) : Prop extends Stands p u x where
  directive : inDirective (u.reverse ++ p.before) = true

def EndsEnumHead (s : Text) : Prop :=
  ∃ b w tag w', s = b ++ ("enum".toList ++ (w ++ (tag ++ w'))) ∧ b.getLast?.any isWordChar = false ∧
    AllBlank w ∧ AllBlank w' ∧ (tag = [] ∨ w ≠ [] ∧ IsWord tag)

structure Enumerator (p : Place) (u x v : Text) : Prop extends Stands p u x where
  opens : ∃ head s, u = head ++ '\x7b' :: s ∧ EndsEnumHead head ∧ Unended s
  plain : Plain x
  balanced : parenDepth x = 0
  begins : (skipBlanks x.reverse).head?.all (· == ',') = true
  follows : (skipBlanks v).head?.any (fun c => c == ',' || c == '=' || c == '\x7d' || isWordChar c) = true

structure Specifier (p : Place) (u x v : Text) : Prop extends Stands p u x where
  words : Worded x
  declares : ∃ z s d r, v = z ++ (s ++ (d ++ r)) ∧ Attributes z ∧ (∀ c ∈ s, isBlank c = true ∨ c = '*') ∧
    IsWord d ∧ isAttribute d = false ∧ r.head?.any isWordChar = false

structure Width (p : Place) (u x e v : Text) : Prop extends Stands p u x where
  colon : ∃ y, x = y ++ ':' :: e ∧ parenDepth y = 0
  uncalled : closesPointer v = false

section

variable {field u v x : Text} {p : Place}

theorem foundAt_iff (hfield : IsWord field) (h : Met p field u v) :
    FoundAt p field u v ↔ isMember (mentionAt p field u v) = true ∧ UnreadBefore p field u :=
  find?_mention_eq_some_iff hfield h

theorem Stands.statementHead_eq (h : Stands p u x) :
    statementHead (u.reverse ++ p.before) = skipBlanks x := by
  obtain ⟨q, rfl, hq, hx⟩ := h.within
  have hbefore : (q ++ x).reverse ++ p.before = ((p.before.reverse ++ q) ++ x).reverse := by simp
  rw [hbefore, hq.statementHead_eq hx]

theorem Stands.isMember_iff (h : Stands p u x) (field v : Text) :
    isMember (mentionAt p field u v) = true ↔ Reads x v := by
  simp only [isMember, mentionAt, h.statementHead_eq, parenDepth_skipBlanks, h.untagged, Reads]
  split <;> simp

theorem Enumerator.isMember_iff (h : Enumerator p u x v) (field : Text) :
    isMember (mentionAt p field u v) = true ↔
      (skipBlanks v).head? = some ',' ∨ (afterAttribute v).isSome = true := by
  obtain ⟨c, hhead, hc⟩ := (Option.any_eq_true _ _).1 h.follows
  have hword : isWordChar ';' = false ∧ isWordChar '[' = false ∧ isWordChar ':' = false ∧
      isWordChar ')' = false := by
    decide +kernel
  have hmark : c ≠ ';' ∧ c ≠ '[' ∧ c ≠ ':' ∧ c ≠ ')' := by
    simp only [Bool.or_eq_true, beq_iff_eq] at hc
    rcases hc with ((rfl | rfl) | rfl) | hc
    · decide
    · decide
    · decide
    · exact ⟨isWordChar_ne hc hword.1, isWordChar_ne hc hword.2.1, isWordChar_ne hc hword.2.2.1,
        isWordChar_ne hc hword.2.2.2⟩
  have hcloses : closesPointer v = false := closesPointer_eq_false (by simpa [hhead] using hmark.2.2.2)
  rw [h.toStands.isMember_iff, Reads, if_neg (by simp [hcloses]), endsDeclarator, hhead]
  simp [h.balanced, hmark]

theorem Specifier.head?_skipBlanks (h : Specifier p u x v) :
    ∃ c, (skipBlanks v).head? = some c ∧ (isWordChar c = true ∨ c = '*') := by
  have hword {a : Text} (ha : IsWord a) (y : Text) : ∃ c, (a ++ y).head? = some c ∧ isWordChar c = true := by
    obtain ⟨c, a, rfl⟩ := List.exists_cons_of_ne_nil ha.1
    exact ⟨c, rfl, ha.isWordChar (List.mem_cons_self ..)⟩
  obtain ⟨z, s, d, r, rfl, hz, hs, hd, -, -⟩ := h.declares
  cases hz with
  | blanks hw =>
    rw [skipBlanks_append hw]
    cases hskip : skipBlanks s with
    | nil =>
      obtain ⟨c, hc, hcword⟩ := hword hd r
      exact ⟨c, by rw [skipBlanks_append_word (allBlank_of_skipBlanks hskip) hd, hc], .inl hcword⟩
    | cons c s' =>
      obtain ⟨hblank, w, -, rfl⟩ := skipBlanks_eq_cons_iff.1 hskip
      refine ⟨c, by rw [skipBlanks_append_of_cons hskip]; rfl, .inr ?_⟩
      rcases hs c (by simp) with hc | hc
      · rw [hblank] at hc
        cases hc
      · exact hc
  | plain hw ha =>
    obtain ⟨c, hc, hcword⟩ := hword ha _
    exact ⟨c, by rw [List.append_assoc, List.append_assoc, skipBlanks_append_word hw ha, hc], .inl hcword⟩
  | call hw ha =>
    obtain ⟨c, hc, hcword⟩ := hword ha _
    exact ⟨c, by rw [List.append_assoc, List.append_assoc, skipBlanks_append_word hw ha, hc], .inl hcword⟩

theorem Specifier.isMember_iff (h : Specifier p u x v) (field : Text) :
    isMember (mentionAt p field u v) = true ↔ (afterAttribute v).isSome = true := by
  obtain ⟨c, hhead, hc⟩ := h.head?_skipBlanks
  have hmark : c ≠ ';' ∧ c ≠ '[' ∧ c ≠ ':' ∧ c ≠ ',' ∧ c ≠ ')' := by
    rcases hc with hc | rfl
    · refine ⟨?_, ?_, ?_, ?_, ?_⟩ <;> exact isWordChar_ne hc (by decide +kernel)
    · decide
  have hcloses : closesPointer v = false := closesPointer_eq_false (by simpa [hhead] using hmark.2.2.2.2)
  have hne {d : Char} (hword : isWordChar d = false) (hblank : isBlank d = false) : d ∉ x := by
    intro hmem
    rcases h.words d hmem with hd | hd
    · rw [hword] at hd
      cases hd
    · rw [hblank] at hd
      cases hd
  have hdepth : parenDepth x = 0 :=
    parenDepth_of_not_mem (hne (by decide +kernel) rfl) (hne (by decide +kernel) rfl)
  rw [h.toStands.isMember_iff, Reads, if_neg (by simp [hcloses]), endsDeclarator, hhead]
  simp [hdepth, hmark]

theorem Width.isMember_iff {e : Text} (h : Width p u x e v) (field : Text) :
    isMember (mentionAt p field u v) = true ↔ parenDepth e = 0 ∧ endsDeclarator v = true := by
  obtain ⟨y, rfl, hy⟩ := h.colon
  have hcolon : parenDepth (':' :: e) = parenDepth e := by simp [parenDepth_cons]
  rw [h.toStands.isMember_iff, Reads, if_neg (by simp [h.uncalled]), parenDepth_append, hy, hcolon,
    Int.zero_add]

end

theorem Stands.findMember_eq {type field t u x d r : Text} {struct : Span} {p : Place} (h : Stands p u x)
    (hfield : IsWord field) (hstruct : findStruct type t = some struct)
    (hp : p = bodyPlace (mask struct.text)) (hmet : Met p field u (d ++ ';' :: r)) (hd : ';' ∉ d)
    (hmember : isMember (mentionAt p field u (d ++ ';' :: r)) = true) (hbefore : UnreadBefore p field u) :
    findMember type field t = some (Span.cut t
      (struct.start + (p.offset + (u.length - (skipBlanks x).length)))
      (struct.start + (p.offset + (u ++ (field ++ (d ++ [';']))).length))) := by
  have hle : (skipBlanks x).length ≤ u.length := by
    obtain ⟨q, rfl, -⟩ := h.within
    have hskip : (skipBlanks x).length ≤ x.length := length_skipBlanks_le x
    simp only [List.length_append]
    omega
  have hstart : statementStart (u.reverse ++ p.before) = p.offset + (u.length - (skipBlanks x).length) := by
    rw [statementStart, h.statementHead_eq, List.length_append, List.length_reverse, Place.offset]
    omega
  have hextent := memberExtent?_eq_some hfield hp hmet hd hmember hbefore
  rw [findMember, hstruct, Option.bind_eq_bind, Option.bind_some, hextent, hstart]
  rfl

theorem misplaced_found_iff {type field t u v : Text} {struct : Span} {p : Place} (hfield : IsWord field)
    (hstruct : findStruct type t = some struct) (hp : p = bodyPlace (mask struct.text))
    (h : Met p field u v) :
    (∀ x, OnDirective p u x → (FoundAt p field u v ↔ Reads x v ∧ UnreadBefore p field u)) ∧
      (∀ x, Enumerator p u x v → (FoundAt p field u v ↔
        ((skipBlanks v).head? = some ',' ∨ (afterAttribute v).isSome = true) ∧ UnreadBefore p field u)) ∧
      (∀ x, Specifier p u x v → (FoundAt p field u v ↔
        (afterAttribute v).isSome = true ∧ UnreadBefore p field u)) ∧
      (∀ x e, Width p u x e v → (FoundAt p field u v ↔
        (parenDepth e = 0 ∧ endsDeclarator v = true) ∧ UnreadBefore p field u)) ∧
      ∀ x d r, Stands p u x → FoundAt p field u v → v = d ++ ';' :: r → ';' ∉ d →
        findMember type field t = some (Span.cut t
          (struct.start + (p.offset + (u.length - (skipBlanks x).length)))
          (struct.start + (p.offset + (u ++ (field ++ (d ++ [';']))).length))) := by
  have hfound := foundAt_iff hfield h
  refine ⟨fun x hx => ?_, fun x hx => ?_, fun x hx => ?_, fun x e hx => ?_, fun x d r hx hat hv hd => ?_⟩
  · rw [hfound, hx.toStands.isMember_iff]
  · rw [hfound, hx.isMember_iff]
  · rw [hfound, hx.isMember_iff]
  · rw [hfound, hx.isMember_iff]
  · obtain ⟨hmember, hbefore⟩ := hfound.1 hat
    rw [hv] at h hmember
    exact hx.findMember_eq hfield hstruct hp h hd hmember hbefore

def oddDefine : Text := "\n#define g __f\n".toList

def oddEnum : Text := "\tenum \x7b h, k \x7d e;\n".toList

def oddPointer : Text := "\tconst f __iomem *p;\n".toList

def oddBitField : Text := "\tint x : w;\n\x7d".toList

def oddBody : Place :=
  ⟨"struct s \x7b".toList.reverse, oddDefine ++ (oddEnum ++ (oddPointer ++ oddBitField))⟩

def oddText : Text :=
  oddBody.before.reverse ++ (oddBody.after ++ [';'])

theorem oddBody_eq : oddBody = bodyPlace (mask (Span.cut oddText 0 77).text) := by
  decide +kernel

theorem odd_directive : OnDirective oddBody "\n#define ".toList "#define ".toList where
  within := ⟨['\n'], by decide +kernel, exists_statementRest_eq_iff.1 ⟨['\n'], by decide, by decide +kernel⟩⟩
  untagged := by decide +kernel
  directive := by decide +kernel

theorem odd_enumerator :
    Enumerator oddBody (oddDefine ++ "\tenum \x7b ".toList) [' ']
      (", k \x7d e;\n".toList ++ (oddPointer ++ oddBitField)) where
  within := ⟨oddDefine ++ "\tenum \x7b".toList, by decide +kernel,
    exists_statementRest_eq_iff.1 ⟨[], allBlank_nil, by decide +kernel⟩⟩
  untagged := by decide +kernel
  opens := ⟨oddDefine ++ "\tenum ".toList, [' '], by decide +kernel,
    ⟨oddDefine ++ ['\t'], [], [], [' '], by decide +kernel, by decide +kernel, allBlank_nil,
      allBlank_space, .inl rfl⟩, by decide +kernel⟩
  plain := by decide +kernel
  balanced := by decide +kernel
  begins := by decide +kernel
  follows := by decide +kernel

theorem odd_specifier :
    Specifier oddBody (oddDefine ++ (oddEnum ++ "\tconst ".toList)) "const ".toList
      (" __iomem *p;\n".toList ++ oddBitField) where
  within := ⟨oddDefine ++ "\tenum \x7b h, k \x7d e;\n\t".toList, by decide +kernel,
    exists_statementRest_eq_iff.1 ⟨"\n\t".toList, by decide, by decide +kernel⟩⟩
  untagged := by decide +kernel
  words := by decide +kernel
  declares := ⟨[' '] ++ ("__iomem".toList ++ [' ']), ['*'], ['p'], ";\n".toList ++ oddBitField,
    by decide +kernel,
    .plain allBlank_space (by decide +kernel) (by decide +kernel) (by decide +kernel)
      (.blanks allBlank_space),
    by simp, by decide +kernel, by decide +kernel, by decide +kernel⟩

theorem odd_width :
    Width oddBody (oddDefine ++ (oddEnum ++ (oddPointer ++ "\tint x : ".toList))) "int x : ".toList [' ']
      ";\n\x7d".toList where
  within := ⟨oddDefine ++ (oddEnum ++ "\tconst f __iomem *p;\n\t".toList), by decide +kernel,
    exists_statementRest_eq_iff.1 ⟨"\n\t".toList, by decide, by decide +kernel⟩⟩
  untagged := by decide +kernel
  colon := ⟨"int x ".toList, by decide +kernel, by decide +kernel⟩
  uncalled := by decide +kernel

theorem odd_names_found :
    findMember "s".toList "g".toList oddText =
        some ⟨"#define g __f\n\tenum \x7b h, k \x7d e;".toList, 11, 42, 2⟩ ∧
      findMember "s".toList "h".toList oddText = some ⟨"h, k \x7d e;".toList, 33, 42, 3⟩ ∧
      findMember "s".toList "f".toList oddText = some ⟨"const f __iomem *p;".toList, 44, 63, 4⟩ ∧
      findMember "s".toList "w".toList oddText = some ⟨"int x : w;".toList, 65, 75, 5⟩ := by
  have hstruct : findStruct "s".toList oddText = some (Span.cut oddText 0 77) := by decide +kernel
  have hunread {field u : Text} (h : ∀ x y, Mention field oddBody.after x y → x.length < u.length →
      isMember (mentionAt oddBody field x y) = false) : UnreadBefore oddBody field u :=
    fun x y hxy hlt => h x y hxy.mention hlt
  refine ⟨?_, ?_, ?_, ?_⟩
  · have hg : Met oddBody "g".toList "\n#define ".toList
        (" __f\n".toList ++ (oddEnum ++ (oddPointer ++ oddBitField))) :=
      ⟨by decide +kernel, by decide +kernel, by decide +kernel⟩
    obtain ⟨hdirective, -, -, -, hspan⟩ := misplaced_found_iff (by decide +kernel) hstruct oddBody_eq hg
    have hat := (hdirective _ odd_directive).2 ⟨by decide +kernel, hunread (by decide +kernel)⟩
    rw [hspan _ (" __f\n\tenum \x7b h, k \x7d e".toList) _ odd_directive.toStands hat
      (by decide +kernel : _ = _ ++ ';' :: '\n' :: (oddPointer ++ oddBitField)) (by decide +kernel)]
    decide +kernel
  · have hh : Met oddBody "h".toList (oddDefine ++ "\tenum \x7b ".toList)
        (", k \x7d e;\n".toList ++ (oddPointer ++ oddBitField)) :=
      ⟨by decide +kernel, by decide +kernel, by decide +kernel⟩
    obtain ⟨-, henumerator, -, -, hspan⟩ := misplaced_found_iff (by decide +kernel) hstruct oddBody_eq hh
    have hat := (henumerator _ odd_enumerator).2 ⟨by decide +kernel, hunread (by decide +kernel)⟩
    rw [hspan _ (", k \x7d e".toList) _ odd_enumerator.toStands hat
      (by decide +kernel : _ = _ ++ ';' :: '\n' :: (oddPointer ++ oddBitField)) (by decide +kernel)]
    decide +kernel
  · have hf : Met oddBody "f".toList (oddDefine ++ (oddEnum ++ "\tconst ".toList))
        (" __iomem *p;\n".toList ++ oddBitField) :=
      ⟨by decide +kernel, by decide +kernel, by decide +kernel⟩
    obtain ⟨-, -, hspecifier, -, hspan⟩ := misplaced_found_iff (by decide +kernel) hstruct oddBody_eq hf
    have hat := (hspecifier _ odd_specifier).2 ⟨by decide +kernel, hunread (by decide +kernel)⟩
    rw [hspan _ (" __iomem *p".toList) _ odd_specifier.toStands hat
      (by decide +kernel : _ = _ ++ ';' :: '\n' :: oddBitField) (by decide +kernel)]
    decide +kernel
  · have hw : Met oddBody "w".toList (oddDefine ++ (oddEnum ++ (oddPointer ++ "\tint x : ".toList)))
        ";\n\x7d".toList :=
      ⟨by decide +kernel, by decide +kernel, by decide +kernel⟩
    obtain ⟨-, -, -, hwidth, hspan⟩ := misplaced_found_iff (by decide +kernel) hstruct oddBody_eq hw
    have hat := (hwidth _ _ odd_width).2 ⟨by decide +kernel, hunread (by decide +kernel)⟩
    rw [hspan _ [] _ odd_width.toStands hat (by decide +kernel : _ = [] ++ ';' :: "\n\x7d".toList)
      (by decide +kernel)]
    decide +kernel

theorem misplaced_names_found :
    findStruct "s".toList oddText = some (Span.cut oddText 0 77) ∧
      oddBody = bodyPlace (mask (Span.cut oddText 0 77).text) ∧
      (∃ u x v, OnDirective oddBody u x ∧ FoundAt oddBody "g".toList u v) ∧
      (∃ u x v, Enumerator oddBody u x v ∧ FoundAt oddBody "h".toList u v) ∧
      (∃ u x v, Specifier oddBody u x v ∧ FoundAt oddBody "f".toList u v) ∧
      ∃ u x e v, Width oddBody u x e v ∧ FoundAt oddBody "w".toList u v :=
  ⟨by decide +kernel, oddBody_eq,
    ⟨_, _, " __f\n".toList ++ (oddEnum ++ (oddPointer ++ oddBitField)), odd_directive, by decide +kernel⟩,
    ⟨_, _, _, odd_enumerator, by decide +kernel⟩, ⟨_, _, _, odd_specifier, by decide +kernel⟩,
    ⟨_, _, _, _, odd_width, by decide +kernel⟩⟩

end HeaderProbe
