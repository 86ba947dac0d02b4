import HeaderProbe.Proofs.Source.InstanceHead
import HeaderProbe.Proofs.Source.ValueOrder

namespace HeaderProbe

open Text

structure InstanceDefinition (type field m : Text) where
  before : Text
  typeGap : Text
  qualifiers : List (Text × Text)
  gap : Text
  name : Text
  annotations : List (Text × Text)
  equalsGap : Text
  braceGap : Text
  body : Text
  after : Text
  text_eq : m = before ++
    ("struct".toList ++ (spaced ((typeGap, type) :: (qualifiers ++ (gap, name) :: annotations)) ++
      (equalsGap ++ '=' :: braceGap)) ++ '{' :: (body ++ '}' :: after))
  edge : before.getLast?.any isWordChar = false
  type_blank : typeGap ≠ [] ∧ AllBlank typeGap
  words : IsSpaced (qualifiers ++ (gap, name) :: annotations)
  annotated : ∀ a ∈ annotations, isAttribute a.2 = true
  qualified : isAttribute name = true → ∀ q ∈ qualifiers, isAttribute q.2 = false
  equals_blank : AllBlank equalsGap
  brace_blank : AllBlank braceGap
  closes : Bracket.brace.afterClose ('{' :: (body ++ '}' :: after)) = some after
  designated : ∃ u v r, body = u ++ '.' :: v ∧ depth u = 0 ∧ Designates field v r

namespace InstanceDefinition

variable {type field m : Text} (d : InstanceDefinition type field m)

def head : Text :=
  "struct".toList ++ (spaced ((d.typeGap, type) :: (d.qualifiers ++ (d.gap, d.name) :: d.annotations)) ++
    (d.equalsGap ++ '=' :: d.braceGap))

def rest : Text :=
  d.body ++ '}' :: d.after

def declared : List Text :=
  d.qualifiers.map Prod.snd ++ d.name :: d.annotations.map Prod.snd

theorem isHead (htype : IsWord type) : InstanceHead type d.declared d.head :=
  ⟨(d.typeGap, type) :: (d.qualifiers ++ (d.gap, d.name) :: d.annotations), d.equalsGap, d.braceGap, rfl,
    isSpaced_cons.2 ⟨⟨d.type_blank.1, d.type_blank.2, htype⟩, d.words⟩, d.equals_blank, d.brace_blank,
    by simp [declared]⟩

def place : Place :=
  ⟨d.before.reverse, d.head ++ '{' :: d.rest⟩

theorem text_place : d.place.text = m := by
  rw [place, Place.text, List.reverse_reverse]
  exact d.text_eq.symm

theorem offset_place : d.place.offset = d.before.length :=
  List.length_reverse

theorem exists_extra {o : Occurrence Text} (htype : IsWord type)
    (ho : o ∈ (Place.start m).occurrences (instanceShape type)) (hlt : o.place.offset < d.place.offset)
    (hstop : d.place.offset < o.stop) :
    o.rest = d.rest ∧ ∃ extra, declaredName (extra ++ d.declared) = some o.value ∧ "struct".toList ∈ extra := by
  obtain ⟨-, u, words, hu, hvalue, hafter⟩ := (instanceShape_iff_head htype).1 (Place.shape_of_mem ho)
  obtain ⟨x, hbefore, hx⟩ := Place.exists_between ((Place.text_of_mem ho).trans d.text_place.symm) hlt.le
  have hlength := congrArg List.length hbefore
  rw [List.length_append, List.length_reverse] at hlength
  simp only [Occurrence.stop, Place.offset, Place.reach, hafter, List.length_append, List.length_cons] at hlt hstop
  have hne : x ≠ [] := by
    rintro rfl
    rw [List.length_nil] at hlength
    omega
  have hedge : x.getLast?.any isWordChar = false := by
    have hlast := d.edge
    rw [← List.head?_reverse] at hlast
    change d.place.before.head?.any isWordChar = false at hlast
    rwa [hbefore, List.head?_append_of_ne_nil _ (by simpa using hne), List.head?_reverse] at hlast
  rw [hafter] at hx
  obtain ⟨hhead, hrest⟩ := hu.eq_append (d.isHead htype) hx (by omega)
  obtain ⟨extra, hextra, rfl⟩ := hu.exists_extra (d.isHead htype) hhead hne hedge
  exact ⟨hrest, extra, hvalue, hextra⟩

theorem exists_match (htype : IsWord type) :
    ∃ o ∈ (Place.start m).occurrences (instanceShape type), o.rest = d.rest ∧
      ∃ extra, declaredName (extra ++ d.declared) = some o.value ∧
        (extra = [] ∧ o.place.offset = d.before.length ∨
          "struct".toList ∈ extra ∧ o.place.offset < d.before.length) := by
  have hdeclared : d.declared ≠ [] := by simp [declared]
  obtain ⟨name, hname⟩ := declaredName_eq_some hdeclared
  have hshape : instanceShape type d.place = some (name, d.rest) := by
    refine (instanceShape_iff_head htype).2 ⟨?_, d.head, d.declared, d.isHead htype, hname, rfl⟩
    rw [List.head?_reverse]
    exact d.edge
  have hfits : instanceShape type d.place ≠ none := by simp [hshape]
  obtain ⟨o, ho, hplace⟩ := Place.exists_occurrence hfits
  rw [d.text_place] at ho
  refine ⟨o, ho, ?_⟩
  rcases hplace with hplace | ⟨hlt, hstop⟩
  · have hread := Place.shape_of_mem ho
    rw [hplace, hshape] at hread
    obtain ⟨hvalue, hrest⟩ := Prod.mk.inj (Option.some.inj hread)
    exact ⟨hrest.symm, [], by rw [List.nil_append, hname, hvalue], .inl ⟨rfl, by rw [hplace, d.offset_place]⟩⟩
  · obtain ⟨hrest, extra, hvalue, hextra⟩ := d.exists_extra htype ho hlt hstop
    exact ⟨hrest, extra, hvalue, .inr ⟨hextra, by rwa [← d.offset_place]⟩⟩

end InstanceDefinition

/-- Whether some bracket in the body of an instance has no partner there. -/
def IllNested (m : Text) (o : Occurrence Text) : Prop :=
  ∃ b e, HasBody m o b e ∧ isNested [] (m.extract (b + 1) e) = false

structure FoundInstance {type field t : Text} (d : InstanceDefinition type field (mask t)) (o : Occurrence Text)
    (s : Span) : Prop where
  contributed : (o, s) ∈ contributions type field t none
  rest_eq : o.rest = d.rest
  selected_iff : ∀ w, (o, s) ∈ contributions type field t (some w) ↔ w = o.value
  listed_iff : ∀ w, s ∈ findInitializers type field t (some w) ↔
    w = o.value ∨ ∃ o', (o', s) ∈ contributions type field t none ∧ o'.value = w ∧
      (IllNested (mask t) o ∨ IllNested (mask t) o')
  named_iff : o.value = d.name ↔
    isAttribute d.name = false ∨ d.qualifiers = [] ∧ o.place.offset = d.before.length
  misnamed : isAttribute d.name = true → ∀ q, d.qualifiers.getLast? = some q → o.value = q.2

theorem mem_findInitializers_iff {type field t w : Text} {s : Span} :
    s ∈ findInitializers type field t (some w) ↔
      ∃ o, (o, s) ∈ contributions type field t none ∧ o.value = w := by
  simp only [← map_snd_contributions, List.mem_map, Prod.exists, mem_contributions_iff, exists_eq_right,
    Option.some.injEq, forall_eq', reduceCtorEq, false_implies, implies_true, true_and]
  exact exists_congr fun o => ⟨fun ⟨ho, hw, hs⟩ => ⟨⟨ho, hs⟩, hw.symm⟩, fun ⟨⟨ho, hs⟩, hw⟩ => ⟨ho, hw.symm, hs⟩⟩

theorem illNested_of_shared {type field t : Text} (hfield : IsWord field) {o o' : Occurrence Text} {s : Span}
    (h : (o, s) ∈ contributions type field t none) (h' : (o', s) ∈ contributions type field t none)
    (hne : o ≠ o') : IllNested (mask t) o ∨ IllNested (mask t) o' := by
  have hshared {o o' : Occurrence Text} (h : (o, s) ∈ contributions type field t none)
      (h' : (o', s) ∈ contributions type field t none) (hlt : o.place.offset < o'.place.offset) :
      IllNested (mask t) o := by
    obtain ⟨b, e, _, _, hbody, -, harranged⟩ := exists_arranged hfield h h' hlt
    obtain ⟨ho, -, hs⟩ := mem_contributions_iff.1 h
    obtain ⟨f, hf⟩ := exists_found_value hfield ho hs
    have hordered : s.start ≤ s.stop := hf ▸ f.completeValue.ordered
    exact ⟨b, e, hbody, by simpa using harranged.not_nested hordered⟩
  rcases Nat.lt_trichotomy o.place.offset o'.place.offset with hlt | heq | hlt
  · exact .inl (hshared h h' hlt)
  · exact absurd (Place.eq_of_offset_eq (mem_contributions_iff.1 h).1 (mem_contributions_iff.1 h').1 heq) hne
  · exact .inr (hshared h' h hlt)

namespace InstanceDefinition

variable {type field t : Text} (d : InstanceDefinition type field (mask t))

theorem exists_reading {o : Occurrence Text} (h : o.rest = d.rest) : Nonempty (FieldReading field o) := by
  obtain ⟨u, v, r, hbody, hdepth, inner, outer, hv, hinner, houter⟩ := d.designated
  exact ⟨{
    before := u, inner, outer, tail := r, close := d.after
    rest_eq := by rw [h, rest, hbody, hv]; simp
    closes := by rw [h]; exact d.closes
    inner_blank := hinner, outer_blank := houter, outside := hdepth }⟩

theorem value_eq_name_iff {v : Text} {extra : List Text} (h : declaredName (extra ++ d.declared) = some v)
    (hextra : extra = [] ∨ "struct".toList ∈ extra) :
    v = d.name ↔ isAttribute d.name = false ∨ d.qualifiers = [] ∧ extra = [] := by
  have hannotations : ∀ a ∈ d.annotations.map Prod.snd, isAttribute a = true := by
    simpa using fun a gap ha => d.annotated (gap, a) ha
  cases hname : isAttribute d.name with
  | false =>
    rw [declared, ← List.append_assoc, declaredName_append hname hannotations] at h
    simpa using h.symm
  | true =>
    have hplain {w : Text} (hw : w ∈ extra ++ d.declared) (hnone : isAttribute w = false) : v ≠ d.name := by
      rintro rfl
      rw [isAttribute_of_declaredName hw hnone h] at hname
      cases hname
    refine ⟨fun hv => .inr ⟨?_, ?_⟩, ?_⟩
    · by_contra hne
      obtain ⟨q, Q, hQ⟩ := List.exists_cons_of_ne_nil hne
      refine hplain (w := q.2) ?_ (d.qualified hname q (by rw [hQ]; exact List.mem_cons_self ..)) hv
      simp [declared, hQ]
    · exact hextra.resolve_right fun hmem => hplain (List.mem_append_left _ hmem) rfl hv
    · rintro (hnone | ⟨hqualifiers, rfl⟩)
      · cases hnone
      · rw [declared, hqualifiers, List.map_nil, List.nil_append, List.nil_append, declaredName,
          if_pos (List.all_eq_true.2 hannotations)] at h
        exact (Option.some.inj h).symm

theorem value_eq_qualifier {v : Text} {extra : List Text} (h : declaredName (extra ++ d.declared) = some v)
    (hname : isAttribute d.name = true) {q : Text × Text} (hq : d.qualifiers.getLast? = some q) : v = q.2 := by
  obtain ⟨Q, hQ⟩ := List.getLast?_eq_some_iff.1 hq
  have hannotations : ∀ a ∈ d.name :: d.annotations.map Prod.snd, isAttribute a = true := by
    refine List.forall_mem_cons.2 ⟨hname, ?_⟩
    simpa using fun a gap ha => d.annotated (gap, a) ha
  have hsplit : extra ++ d.declared =
      (extra ++ Q.map Prod.snd) ++ q.2 :: (d.name :: d.annotations.map Prod.snd) := by
    rw [declared, hQ]
    simp
  have hplain := d.qualified hname q (by rw [hQ]; simp)
  rw [hsplit, declaredName_append hplain hannotations] at h
  exact (Option.some.inj h).symm

theorem exists_found (htype : IsWord type) (hfield : IsWord field) : ∃ o s, FoundInstance d o s := by
  obtain ⟨o, ho, hrest, extra, hvalue, hextra⟩ := d.exists_match htype
  obtain ⟨a⟩ := d.exists_reading hrest
  obtain ⟨s, hs⟩ := Option.ne_none_iff_exists'.1
    (mt (FieldReading.valueSpan?_eq_none_iff (t := t) hfield ho).1 fun hnone => hnone a)
  have hcontributed : (o, s) ∈ contributions type field t none :=
    mem_contributions_iff.2 ⟨ho, by simp, hs⟩
  refine ⟨o, s, hcontributed, hrest, fun w => ?_, fun w => ?_, ?_, fun hname q hq => ?_⟩
  · rw [mem_contributions_iff]
    simp [ho, hs]
  · rw [mem_findInitializers_iff]
    constructor
    · rintro ⟨o', ho', rfl⟩
      by_cases heq : o = o'
      · exact .inl (by rw [heq])
      · exact .inr ⟨o', ho', rfl, illNested_of_shared hfield hcontributed ho' heq⟩
    · rintro (rfl | ⟨o', ho', hw, -⟩)
      · exact ⟨o, hcontributed, rfl⟩
      · exact ⟨o', ho', hw⟩
  · rw [d.value_eq_name_iff hvalue (hextra.imp And.left And.left)]
    refine or_congr_right (and_congr_right fun _ => ?_)
    rcases hextra with ⟨hnil, hoffset⟩ | ⟨hmem, hlt⟩
    · exact iff_of_true hnil hoffset
    · refine iff_of_false ?_ (Nat.ne_of_lt hlt)
      rintro rfl
      cases hmem
  · exact d.value_eq_qualifier hvalue hname hq

end InstanceDefinition

theorem contributions_filter (type field t w : Text) :
    contributions type field t (some w) =
      (contributions type field t none).filter fun x => x.1.value == w := by
  simp only [contributions, List.filterMap_filter, List.filter_filterMap]
  refine List.filterMap_congr fun o _ => ?_
  cases hs : valueSpan? field t o with
  | none => simp
  | some s =>
    rw [Option.all_none, if_pos rfl, Option.all_some, Option.map_some, Option.filter_some, Bool.beq_comm]

theorem instance_found_by_variable_iff {type field t : Text} (htype : IsWord type) (hfield : IsWord field)
    (d : InstanceDefinition type field (mask t)) :
    (∃ o s, FoundInstance d o s) ∧
      (∀ wanted, findInitializers type field t wanted = (contributions type field t wanted).map Prod.snd) ∧
      ∀ w, contributions type field t (some w) =
        (contributions type field t none).filter fun x => x.1.value == w :=
  ⟨d.exists_found htype hfield, fun _ => map_snd_contributions.symm, contributions_filter type field t⟩

def namedText : Text :=
  "struct T const v __ro = \x7b .f = 1 \x7d; struct T w = \x7b .f = 2 \x7d;".toList

def namedDefinition : InstanceDefinition ['T'] ['f'] (mask namedText) where
  before := []
  typeGap := [' ']
  qualifiers := [([' '], "const".toList)]
  gap := [' ']
  name := ['v']
  annotations := [([' '], "__ro".toList)]
  equalsGap := [' ']
  braceGap := [' ']
  body := " .f = 1 ".toList
  after := (mask namedText).drop 34
  text_eq := by decide +kernel
  edge := rfl
  type_blank := ⟨by simp, allBlank_space⟩
  words := by decide +kernel
  annotated := by decide
  qualified := by decide
  equals_blank := allBlank_space
  brace_blank := allBlank_space
  closes := by decide +kernel
  designated := ⟨[' '], "f = 1 ".toList, " 1 ".toList, by decide, by decide, [], [' '], by decide, allBlank_nil,
    allBlank_space⟩

theorem annotated_instance_found_by_variable :
    findInitializers ['T'] ['f'] namedText none = [⟨['1'], 31, 32, 1⟩, ⟨['2'], 56, 57, 1⟩] ∧
      ∃ o s, FoundInstance namedDefinition o s ∧ o.value = ['v'] ∧
        s ∈ findInitializers ['T'] ['f'] namedText (some ['v']) := by
  obtain ⟨⟨o, s, h⟩, -, -⟩ : (∃ o s, FoundInstance namedDefinition o s) ∧ _ :=
    instance_found_by_variable_iff (by decide +kernel) (by decide +kernel) namedDefinition
  have hname : o.value = ['v'] := h.named_iff.2 (.inl (by decide))
  exact ⟨by decide +kernel, o, s, h, hname, (h.listed_iff _).2 (.inl hname.symm)⟩

def attributeText : Text :=
  "struct T const __ops = \x7b .f = 1 \x7d;".toList

def attributeDefinition : InstanceDefinition ['T'] ['f'] (mask attributeText) where
  before := []
  typeGap := [' ']
  qualifiers := [([' '], "const".toList)]
  gap := [' ']
  name := "__ops".toList
  annotations := []
  equalsGap := [' ']
  braceGap := [' ']
  body := " .f = 1 ".toList
  after := [';']
  text_eq := by decide +kernel
  edge := rfl
  type_blank := ⟨by simp, allBlank_space⟩
  words := by decide +kernel
  annotated := by simp
  qualified := by decide
  equals_blank := allBlank_space
  brace_blank := allBlank_space
  closes := by decide +kernel
  designated := ⟨[' '], "f = 1 ".toList, " 1 ".toList, by decide, by decide, [], [' '], by decide, allBlank_nil,
    allBlank_space⟩

theorem instance_found_by_qualifier :
    attributeDefinition.name = "__ops".toList ∧
      findInitializers ['T'] ['f'] attributeText none = [⟨['1'], 30, 31, 1⟩] ∧
      findInitializers ['T'] ['f'] attributeText (some attributeDefinition.name) = [] ∧
      findInitializers ['T'] ['f'] attributeText (some "const".toList) = [⟨['1'], 30, 31, 1⟩] := by
  decide +kernel

end HeaderProbe
