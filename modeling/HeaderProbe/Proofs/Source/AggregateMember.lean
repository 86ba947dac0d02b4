import HeaderProbe.Proofs.Source.Misplaced

namespace HeaderProbe

open Text

def TagGap (s : Text) : Prop :=
  ∃ w tag w', s = w ++ (tag ++ w') ∧ AllBlank w ∧ AllBlank w' ∧ (tag = [] ∨ w ≠ [] ∧ IsWord tag)

structure AggregateMember (field : Text) where
  qualifiers : Text
  keyword : Text
  tag : Text
  members : Text
  declared : Text
  rest : Text
  qualified : Plain qualifiers ∧ qualifiers.getLast?.any isWordChar = false
  aggregate : keyword ∈ ["struct".toList, "union".toList]
  tagged : TagGap tag
  closes : Bracket.brace.afterClose ('{' :: (members ++ ['}'])) = some []
  ends : ';' ∉ rest

namespace AggregateMember

variable {field : Text} (d : AggregateMember field)

def head : Text :=
  d.qualifiers ++ (d.keyword ++ d.tag)

def specifier : Text :=
  d.head ++ '{' :: (d.members ++ ['}'])

def text : Text :=
  d.specifier ++ (d.declared ++ (field ++ (d.rest ++ [';'])))

structure Declared (gap u : Text) : Prop where
  split : d.declared = gap ++ u
  lead : Lead DirectiveLine false gap
  begins : u.head?.any isBlank = false
  plain : Plain u
  untagged : ¬ Tagged d.declared
  declarator : u = [] ∧ EndsName d.rest ∨ Declarator u d.rest

end AggregateMember

theorem Declarator.reads {u v : Text} (h : Declarator u v) (r : Text) (hu : skipBlanks u = u) :
    Reads u (v ++ ';' :: r) := by
  cases h with
  | object _ hdepth _ hv =>
    obtain ⟨hcloses, hends, -⟩ := hv.reads r
    rw [Reads, if_neg (by simp [hcloses])]
    exact ⟨hdepth, hends⟩
  | @pointer u w w' x x' r' hdepth hw hw' hx hx' =>
    rw [Reads, if_pos (closesPointer_call hx hx' r' _), hu]
    exact ⟨parenDepth_pointer hdepth hw hw', opensPointer_star u hw hw'⟩

theorem Lead.mayBeginName {fresh : Bool} {line : Text → Prop} {s b : Text} (h : Lead line fresh s)
    (hb : HeaderProbe.mayBeginName b = true) : HeaderProbe.mayBeginName (s.reverse ++ b) = true := by
  cases hlast : s.getLast? with
  | none =>
    rw [List.getLast?_eq_none_iff.1 hlast]
    exact hb
  | some c =>
    have hblank := h.isBlank_getLast hlast
    have hmark : c ≠ '.' ∧ c ≠ '>' := by
      constructor <;> (rintro rfl; cases hblank)
    simp [HeaderProbe.mayBeginName, List.head?_append, hlast, isWordChar_of_isBlank hblank, hmark]

namespace AggregateMember

variable {field : Text} (d : AggregateMember field) {p : Place} {before after : Text}

theorem length_statementHead_le (b : Text) :
    (statementHead ((before ++ (d.specifier ++ d.declared)).reverse ++ b)).length ≤ d.declared.length := by
  have hsplit : (before ++ (d.specifier ++ d.declared)).reverse ++ b =
      d.declared.reverse ++ '}' :: ((before ++ (d.head ++ '{' :: d.members)).reverse ++ b) := by
    simp [specifier]
  have hle := HeaderProbe.length_statementHead_le (u := d.declared.reverse)
    (b := (before ++ (d.head ++ '{' :: d.members)).reverse ++ b) (c := '}') rfl
  rwa [← hsplit, List.length_reverse] at hle

namespace Declared

variable {d} {gap u : Text}

theorem unblank (h : d.Declared gap u) : skipBlanks u = u := by
  have hbegins := h.begins
  cases u with
  | nil => rfl
  | cons c u => exact skipBlanks_cons hbegins u

theorem mayBeginName (h : d.Declared gap u) (b : Text) :
    mayBeginName (u.reverse ++ (gap.reverse ++ '}' :: b)) = true := by
  rcases h.declarator with ⟨rfl, -⟩ | hdeclarator
  · have hclose : HeaderProbe.mayBeginName ['}'] = true := by decide +kernel
    exact h.lead.mayBeginName hclose
  · exact hdeclarator.mayBeginName _

theorem isWordChar_head? (h : d.Declared gap u) (r : Text) :
    (d.rest ++ ';' :: r).head?.any isWordChar = false := by
  rcases h.declarator with ⟨-, hend⟩ | hdeclarator
  · exact (hend.reads r).2.2
  · exact hdeclarator.isWordChar_head? r

theorem reads (h : d.Declared gap u) (r : Text) : Reads u (d.rest ++ ';' :: r) := by
  rcases h.declarator with ⟨rfl, hend⟩ | hdeclarator
  · obtain ⟨hcloses, hends, -⟩ := hend.reads r
    rw [Reads, if_neg (by simp [hcloses])]
    exact ⟨rfl, hends⟩
  · exact hdeclarator.reads r h.unblank

theorem not_tag (h : d.Declared gap u) (b : Text) :
    tagKeywords.contains (wordBefore (d.declared.reverse ++ '}' :: b)) = false := by
  have hclose : isWordChar '}' = false := by decide +kernel
  cases hskip : skipBlanks d.declared.reverse with
  | nil =>
    have hword : wordBefore (d.declared.reverse ++ '}' :: b) = [] := by
      rw [wordBefore, skipBlanks_append_cons rfl, hskip, List.nil_append, List.takeWhile_cons, hclose]
      rfl
    rw [hword]
    decide
  | cons c r =>
    have hedge : ('}' :: b).head?.any isWordChar = false := hclose
    rw [wordBefore_append (by rw [hskip]; exact List.cons_ne_nil c r) hedge]
    exact Bool.eq_false_iff.2 h.untagged

theorem stands (h : d.Declared gap u) : Stands p (before ++ (d.specifier ++ (gap ++ u))) u where
  within := by
    have hends : EndsBefore false ((before ++ d.specifier).reverse ++ p.before) := by
      have hbrace : (before ++ d.specifier).reverse ++ p.before =
          '}' :: ((before ++ (d.head ++ '{' :: d.members)).reverse ++ p.before) := by simp [specifier]
      rw [hbrace]
      rfl
    have hbegins := h.lead.endsBeforeStatement hends h.plain
    refine ⟨before ++ (d.specifier ++ gap), by simp, ?_⟩
    simpa using hbegins
  untagged := by
    have hsplit : (before ++ (d.specifier ++ (gap ++ u))).reverse ++ p.before =
        d.declared.reverse ++ '}' :: ((before ++ (d.head ++ '{' :: d.members)).reverse ++ p.before) := by
      simp [specifier, h.split]
    rw [hsplit]
    exact h.not_tag _

theorem met (h : d.Declared gap u) (hbody : p.after = before ++ (d.text ++ after)) :
    Met p field (before ++ (d.specifier ++ (gap ++ u))) (d.rest ++ ';' :: after) where
  after_eq := by
    rw [hbody, text, h.split]
    simp
  left := by
    have hsplit : (before ++ (d.specifier ++ (gap ++ u))).reverse ++ p.before = u.reverse ++ (gap.reverse ++
        '}' :: ((before ++ (d.head ++ '{' :: d.members)).reverse ++ p.before)) := by
      simp [specifier]
    rw [hsplit]
    exact h.mayBeginName _
  right := h.isWordChar_head? after

end Declared

theorem matchClose_eq (hbody : p.after = before ++ (d.text ++ after)) :
    matchClose p.text (p.offset + (before ++ d.head).length) =
      some (p.offset + (before ++ d.specifier).length) := by
  have htext : p.text = (p.before.reverse ++ (before ++ d.head)) ++ Bracket.brace.opening ::
      ((d.members ++ ['}']) ++ (d.declared ++ (field ++ (d.rest ++ ';' :: after)))) := by
    rw [Place.text, hbody, text, specifier]
    simp [Bracket.opening]
  have hoffset : p.offset + (before ++ d.head).length = (p.before.reverse ++ (before ++ d.head)).length := by
    simp [Place.offset]
  have hclose : Bracket.brace.afterClose (Bracket.brace.opening :: ((d.members ++ ['}']) ++
      (d.declared ++ (field ++ (d.rest ++ ';' :: after))))) =
        some (d.declared ++ (field ++ (d.rest ++ ';' :: after))) :=
    Bracket.partner_append d.closes _
  rw [htext, hoffset, matchClose_of_afterClose hclose]
  congr 1
  simp only [Bracket.opening, specifier, Place.offset, List.length_append, List.length_cons,
    List.length_reverse, List.length_nil]
  omega

section

variable {type t : Text} {struct : Span} (hfield : IsWord field)
  (hstruct : findStruct type t = some struct) (hp : p = bodyPlace (mask struct.text))
  (hbody : p.after = before ++ (d.text ++ after))
  (honly : ∀ x y, Mention field p.after x y → x = before ++ (d.specifier ++ d.declared))
include hfield hstruct hp honly

theorem start_of_findMember {s : Span} (hfound : findMember type field t = some s) :
    struct.start + (p.offset + (before ++ d.specifier).length) ≤ s.start := by
  simp only [findMember, memberExtent?, hstruct, ← hp, Option.bind_eq_bind, Option.bind_some,
    Option.bind_eq_some_iff, Option.pure_def, Option.some.injEq, Prod.exists, Prod.mk.injEq] at hfound
  obtain ⟨i, j, ⟨o, ho, -, -, rfl, -⟩, rfl⟩ := hfound
  obtain ⟨x, y, hmet, rfl⟩ :=
    (mem_occurrences_nameShape_iff hfield).1 (List.mem_of_find?_eq_some ho)
  obtain rfl := honly x y hmet.mention
  have hle : (statementHead ((before ++ (d.specifier ++ d.declared)).reverse ++ p.before)).length ≤
      d.declared.length :=
    d.length_statementHead_le p.before
  simp only [Span.cut, mentionAt, statementStart, Place.offset, List.length_append,
    List.length_reverse] at hle ⊢
  omega

include hbody

theorem findMember_eq {gap u : Text} (h : d.Declared gap u) :
    findMember type field t =
      some (Span.cut t (struct.start + (p.offset + (before ++ (d.specifier ++ gap)).length))
        (struct.start + (p.offset + (before ++ d.text).length))) := by
  have hearlier : UnreadBefore p field (before ++ (d.specifier ++ (gap ++ u))) := by
    intro x y hxy hlt
    rw [honly x y hxy.mention, h.split] at hlt
    omega
  have hstands : Stands p (before ++ (d.specifier ++ (gap ++ u))) u := h.stands
  have hmember := (hstands.isMember_iff field _).2 (h.reads after)
  have hstart : (before ++ (d.specifier ++ (gap ++ u))).length - (skipBlanks u).length =
      (before ++ (d.specifier ++ gap)).length := by
    rw [h.unblank]
    simp only [List.length_append]
    omega
  have hstop : before ++ (d.specifier ++ (gap ++ u)) ++ (field ++ (d.rest ++ [';'])) = before ++ d.text := by
    simp [text, h.split]
  rw [hstands.findMember_eq hfield hstruct hp (h.met hbody) d.ends hmember hearlier, hstart, hstop]

end

end AggregateMember

theorem aggregate_type_cut_off {type field t before after : Text} {struct : Span} {p : Place}
    (hfield : IsWord field) (hstruct : findStruct type t = some struct)
    (hp : p = bodyPlace (mask struct.text)) (d : AggregateMember field)
    (hbody : p.after = before ++ (d.text ++ after))
    (honly : ∀ x y, Mention field p.after x y → x = before ++ (d.specifier ++ d.declared)) :
    (∀ s, findMember type field t = some s →
      ∃ e, matchClose p.text (p.offset + (before ++ d.head).length) = some e ∧ struct.start + e ≤ s.start) ∧
      ∀ gap u, d.Declared gap u → findMember type field t =
        some (Span.cut t (struct.start + (p.offset + (before ++ (d.specifier ++ gap)).length))
          (struct.start + (p.offset + (before ++ d.text).length))) := by
  refine ⟨fun s hs => ⟨_, d.matchClose_eq hbody, ?_⟩, fun gap u h => ?_⟩
  · exact d.start_of_findMember hfield hstruct hp honly hs
  · exact d.findMember_eq hfield hstruct hp hbody honly h

def sharedUnion : AggregateMember "f".toList where
  qualifiers := "const ".toList
  keyword := "union".toList
  tag := " u ".toList
  members := " int a; struct \x7b int b; \x7d c; ".toList
  declared := " g, *".toList
  rest := "[2]".toList
  qualified := by decide +kernel
  aggregate := by decide +kernel
  tagged := ⟨[' '], ['u'], [' '], by decide +kernel, allBlank_space, allBlank_space,
    .inr ⟨by decide +kernel, by decide +kernel⟩⟩
  closes := by decide +kernel
  ends := by decide +kernel

theorem shared_union_declares : sharedUnion.Declared [' '] "g, *".toList where
  split := by decide +kernel
  lead := .blanks allBlank_space
  begins := by decide +kernel
  plain := by decide +kernel
  untagged := by decide +kernel
  declarator :=
    .inr (.object (by decide +kernel) (by decide +kernel) (by decide +kernel) (.mark allBlank_nil (by decide)))

def sharedText : Text :=
  "struct s \x7b struct \x7b ".toList ++ (sharedUnion.text ++ " \x7d; \x7d;".toList)

theorem shared_union_cut_off :
    findMember "s".toList "f".toList sharedText = some ⟨"g, *f[2];".toList, 66, 75, 1⟩ := by
  have hstruct : findStruct "s".toList sharedText = some (Span.cut sharedText 0 80) := by decide +kernel
  have honly : ∀ u v, Mention "f".toList (bodyPlace (mask (Span.cut sharedText 0 80).text)).after u v →
      u = " struct \x7b ".toList ++ (sharedUnion.specifier ++ sharedUnion.declared) := by
    decide +kernel
  obtain ⟨-, hfound⟩ := aggregate_type_cut_off (by decide +kernel) hstruct rfl sharedUnion
    (by decide +kernel : _ = " struct \x7b ".toList ++ (_ ++ " \x7d; \x7d".toList)) honly
  rw [hfound _ _ shared_union_declares]
  decide +kernel

def nestedStruct : AggregateMember "f".toList where
  qualifiers := []
  keyword := "struct".toList
  tag := [' ']
  members := " int a; ".toList
  declared := [' ']
  rest := []
  qualified := by decide +kernel
  aggregate := by decide +kernel
  tagged := ⟨[' '], [], [], by decide +kernel, allBlank_space, allBlank_nil, .inl rfl⟩
  closes := by decide +kernel
  ends := by decide +kernel

def nestedStructText : Text :=
  "struct s \x7b ".toList ++ (nestedStruct.text ++ " \x7d;".toList)

theorem nested_struct_cut_off :
    ∃ struct before after, findStruct "s".toList nestedStructText = some struct ∧
      (bodyPlace (mask struct.text)).after = before ++ (nestedStruct.text ++ after) ∧
      (∀ u v, Mention "f".toList (bodyPlace (mask struct.text)).after u v →
        u = before ++ (nestedStruct.specifier ++ nestedStruct.declared)) ∧
      (Span.cut nestedStructText 11 31).text = nestedStruct.text ∧
      findMember "s".toList "f".toList nestedStructText = some ⟨"f;".toList, 29, 31, 1⟩ :=
  ⟨Span.cut nestedStructText 0 33, [' '], " \x7d".toList, by decide +kernel, by decide +kernel,
    by decide +kernel, by decide +kernel, by decide +kernel⟩

end HeaderProbe
