import HeaderProbe.Proofs.Source.Attribute
import HeaderProbe.Proofs.Source.Mention

namespace HeaderProbe

open Text

structure Clause (s : Text) : Prop where
  plain : Plain s
  balanced : Balanced s

def Enclosed (name u v : Text) : Prop :=
  ∃ x y z r, u = x ++ '(' :: y ∧ v = z ++ ')' :: r ∧ Balanced (y ++ (name ++ z)) ∧
    (skipBlanks r).head? ≠ some '('

theorem enclosed_iff {name u v : Text} :
    Enclosed name u v ↔ ∃ m ∈ List.range u.length, ∃ n ∈ List.range v.length,
      u[m]? = some '(' ∧ v[n]? = some ')' ∧ Balanced (u.drop (m + 1) ++ (name ++ v.take n)) ∧
        (skipBlanks (v.drop (n + 1))).head? ≠ some '(' := by
  constructor
  · rintro ⟨x, y, z, r, rfl, rfl, hbalanced, hr⟩
    refine ⟨x.length, by simp, z.length, by simp, by simp, by simp, ?_, ?_⟩
    · simpa using hbalanced
    · simpa using hr
  · rintro ⟨m, -, n, -, hm, hn, hbalanced, hr⟩
    exact ⟨u.take m, u.drop (m + 1), v.take n, v.drop (n + 1), eq_take_append_drop_of_getElem? hm,
      eq_take_append_drop_of_getElem? hn, hbalanced, hr⟩

instance (name u v : Text) : Decidable (Enclosed name u v) :=
  decidable_of_iff _ enclosed_iff.symm

structure Hides (field s : Text) : Prop where
  clause : Clause s
  hidden : ∀ u v, Mention field s u v → Tagged u ∨ Enclosed field u v

structure TaggedLead (field lead : Text) : Prop where
  blank : Lead DirectiveLine false lead
  tagged : ∀ u v, Mention field lead u v → Tagged u

/-- Complete statements behind one another. The members of a nested structure are some of them, between
its head, which ends at the opening brace, and what ends at the closing one. -/
inductive Statements (field : Text) : Text → Prop where
  | nil : Statements field []
  | cons {lead s r : Text} {c : Char} (hlead : TaggedLead field lead) (hs : Hides field s)
      (hc : endsStatement c = true) (hr : Statements field r) :
      Statements field (lead ++ (s ++ c :: r))

inductive EndsName : Text → Prop where
  | nothing {w : Text} (hw : AllBlank w) : EndsName w
  | mark {w r : Text} {c : Char} (hw : AllBlank w) (hc : c ∈ [',', '[', ':']) : EndsName (w ++ c :: r)
  | word {w a r : Text} (hw : AllBlank w) (hgap : w ≠ []) (ha : IsWord a) (hmark : isAttribute a = true)
      (hedge : r.head?.any isWordChar = false) : EndsName (w ++ (a ++ r))

inductive Declarator : Text → Text → Prop where
  | object {u v : Text} (hlast : u.getLast?.any (fun c => isBlank c || c == '*' || c == ',') = true)
      (hdepth : parenDepth u = 0) (htag : ¬ Tagged u) (hv : EndsName v) : Declarator u v
  | pointer {u w w' x x' r : Text} (hdepth : parenDepth u = 0) (hw : AllBlank w) (hw' : AllBlank w')
      (hx : AllBlank x) (hx' : AllBlank x') :
      Declarator (u ++ '(' :: (w ++ '*' :: w')) (x ++ ')' :: (x' ++ '(' :: r))

structure Declares (field u v : Text) : Prop where
  clause : Clause (u ++ (field ++ v))
  begins : u.head?.any isWordChar = true
  declarator : Declarator u v
  hidden : ∀ x y, Mention field (u ++ (field ++ v)) x y → x.length < u.length →
    Tagged x ∨ Enclosed field x y

theorem parenDepth_of_isWord {w : Text} (hw : IsWord w) : parenDepth w = 0 := by
  have hne {c : Char} (hc : isWordChar c = false) : c ∉ w := by
    intro hmem
    rw [hw.isWordChar hmem] at hc
    cases hc
  exact parenDepth_of_not_mem (hne (by decide +kernel)) (hne (by decide +kernel))

theorem parenDepth_star {w w' : Text} (hw : AllBlank w) (hw' : AllBlank w') :
    parenDepth (w ++ '*' :: w') = 0 := by
  rw [parenDepth_append, parenDepth_of_allBlank hw, parenDepth_cons, parenDepth_of_allBlank hw']
  rfl

theorem opensPointer_star (u : Text) {w w' : Text} (hw : AllBlank w) (hw' : AllBlank w') :
    opensPointer (u ++ '(' :: (w ++ '*' :: w')).reverse = true := by
  have hrev : (u ++ '(' :: (w ++ '*' :: w')).reverse =
      w'.reverse ++ '*' :: (w.reverse ++ '(' :: u.reverse) := by simp
  rw [hrev, opensPointer, skipBlanks_append hw'.reverse, skipBlanks_cons rfl]
  change ((skipBlanks (w.reverse ++ '(' :: u.reverse)).head? == some '(') = true
  rw [skipBlanks_append hw.reverse, skipBlanks_cons rfl]
  rfl

theorem closesPointer_of_balanced {name y z r : Text} (hname : IsWord name)
    (hbalanced : Balanced (y ++ (name ++ z))) (hy : parenDepth y = 0)
    (hcloses : closesPointer (z ++ ')' :: r) = true) : (skipBlanks r).head? = some '(' := by
  unfold closesPointer at hcloses
  cases hz : skipBlanks z with
  | nil =>
    rw [skipBlanks_append (allBlank_of_skipBlanks hz), skipBlanks_cons rfl] at hcloses
    simpa using hcloses
  | cons c z' =>
    exfalso
    rw [skipBlanks_append_cons rfl, hz] at hcloses
    split at hcloses
    · next q hq =>
      obtain ⟨rfl, -⟩ := List.cons.inj hq
      obtain ⟨-, w, hw, rfl⟩ := skipBlanks_eq_cons_iff.1 hz
      have hcut : y ++ (name ++ (w ++ ')' :: z')) = (y ++ (name ++ (w ++ [')']))) ++ z' := by simp
      have hnonneg := hbalanced.1.depth_nonneg hcut
      simp only [parenDepth_append, hy, parenDepth_of_isWord hname, parenDepth_of_allBlank hw,
        parenDepth_close, parenDepth_nil] at hnonneg
      omega
    · cases hcloses

section

variable {name b lead s : Text} {c : Char} {fresh : Bool} (hname : IsWord name)
  (hb : EndsBefore fresh b) (hlead : Lead DirectiveLine fresh lead) (hs : Clause s)
  (hc : endsStatement c = true)
include hname hb hlead hs hc

theorem isMember_of_enclosed {x y : Text} (hsplit : s = x ++ (name ++ y)) (h : Enclosed name x y)
    (r : Text) :
    isMember ⟨⟨x.reverse ++ (lead.reverse ++ b), name ++ (y ++ c :: r)⟩, (), y ++ c :: r⟩ = false := by
  obtain ⟨i, j, k, l, rfl, rfl, hbalanced, hl⟩ := h
  have hhead : statementHead ((i ++ '(' :: j).reverse ++ (lead.reverse ++ b)) = skipBlanks i ++ '(' :: j := by
    rw [statementHead_of_lead hb hlead fun d hd =>
      hs.plain d (by rw [hsplit]; exact List.mem_append_left _ hd),
      skipBlanks_append_cons rfl]
  have hi : 0 ≤ parenDepth i := hs.balanced.1.depth_nonneg (by rw [hsplit, List.append_assoc])
  have hj : 0 ≤ parenDepth j := hbalanced.1.depth_nonneg rfl
  have hdepth : parenDepth (skipBlanks i ++ '(' :: j) = parenDepth i + (1 + parenDepth j) := by
    rw [parenDepth_append, parenDepth_skipBlanks, parenDepth_open]
  by_contra hmember
  simp only [isMember, hhead, hdepth, Bool.not_eq_false] at hmember
  split at hmember
  · next hcloses =>
    obtain ⟨hone, -⟩ := Bool.and_eq_true_iff.1 hmember
    have hzero : parenDepth j = 0 := by
      have := beq_iff_eq.1 hone
      omega
    rw [List.append_assoc, List.cons_append] at hcloses
    have hopen := closesPointer_of_balanced hname hbalanced hzero hcloses
    obtain ⟨hblank, -, hne⟩ := apart_of_endsStatement hc
    rw [skipBlanks_append_cons hblank] at hopen
    cases hskip : skipBlanks l with
    | nil => exact hne (by simpa [hskip] using hopen)
    | cons d l' => exact hl (by simpa [hskip] using hopen)
  · obtain ⟨⟨hzero, -⟩, -⟩ := (Bool.and_eq_true_iff.1 hmember).imp_left Bool.and_eq_true_iff.1
    have := beq_iff_eq.1 hzero
    omega

theorem isMember_of_hidden {x y : Text} (hsplit : s = x ++ (name ++ y))
    (h : Tagged x ∨ Enclosed name x y) (r : Text) :
    isMember ⟨⟨x.reverse ++ (lead.reverse ++ b), name ++ (y ++ c :: r)⟩, (), y ++ c :: r⟩ = false := by
  rcases h with htag | henclosed
  · exact isMember_of_tag (htag.append (hlead.isWordChar_head? hb.isWordChar_head?))
  · exact isMember_of_enclosed hname hb hlead hs hc hsplit henclosed r

end

theorem Text.Mention.statement {name lead s r u v : Text} {c : Char} {fresh : Bool} (hname : IsWord name)
    (hlead : Lead DirectiveLine fresh lead) (hc : endsStatement c = true)
    (h : Mention name (lead ++ (s ++ c :: r)) u v) :
    (∃ x, v = x ++ (s ++ c :: r) ∧ Mention name lead u x) ∨
      (∃ x y, u = lead ++ x ∧ v = y ++ c :: r ∧ Mention name s x y) ∨
        ∃ x, u = lead ++ (s ++ c :: x) ∧ Mention name r x v := by
  rcases h.append hname (.inl hlead.isWordChar_getLast) with hlead | ⟨x, rfl, hrest⟩
  · exact .inl hlead
  · rcases hrest.divided hname (apart_of_endsStatement hc).2.1 with ⟨y, rfl, hs⟩ | ⟨y, rfl, hr⟩
    · exact .inr (.inl ⟨x, y, rfl, rfl, hs⟩)
    · exact .inr (.inr ⟨y, rfl, hr⟩)

theorem isMember_of_statement {field lead s r u v : Text} {c : Char} {p : Place} (hfield : IsWord field)
    (hp : EndsBefore false p.before) (hlead : TaggedLead field lead) (hs : Clause s)
    (hc : endsStatement c = true) (hm : Mention field (lead ++ (s ++ c :: r)) u v) :
    isMember (mentionAt p field u v) = false ∨
      (∃ x y, u = lead ++ x ∧ Mention field s x y ∧ ¬(Tagged x ∨ Enclosed field x y)) ∨
        ∃ x, u = lead ++ (s ++ c :: x) ∧ Mention field r x v := by
  rcases hm.statement hfield hlead.blank hc with ⟨x, -, hmention⟩ | ⟨x, y, rfl, rfl, hmention⟩ | hbehind
  · exact .inl (isMember_of_tag ((hlead.tagged u x hmention).append hp.isWordChar_head?))
  · by_cases hhidden : Tagged x ∨ Enclosed field x y
    · have hbefore : (lead ++ x).reverse ++ p.before = x.reverse ++ (lead.reverse ++ p.before) := by simp
      rw [mentionAt, hbefore]
      exact .inl (isMember_of_hidden hfield hp hlead.blank hs hc (by simpa using hmention.text_eq) hhidden r)
    · exact .inr (.inl ⟨x, y, rfl, hmention, hhidden⟩)
  · exact .inr (.inr hbehind)

namespace Statements

variable {field s : Text}

theorem endsBefore (h : Statements field s) {b : Text} (hb : EndsBefore false b) :
    EndsBefore false (s.reverse ++ b) := by
  induction h generalizing b with
  | nil => exact hb
  | @cons lead s rest c _ _ hc _ ih =>
    have hnext := @ih (c :: (s.reverse ++ (lead.reverse ++ b))) hc
    simpa using hnext

theorem append {r : Text} (h : Statements field s) (hr : Statements field r) :
    Statements field (s ++ r) := by
  induction h with
  | nil => exact hr
  | cons hlead hs hc _ ih =>
    rw [List.append_assoc, List.append_assoc, List.cons_append]
    exact .cons hlead hs hc ih

theorem nested {lead head lead' tail : Text} (hfield : IsWord field) (hlead : TaggedLead field lead)
    (hhead : Hides field head) (h : Statements field s) (hlead' : TaggedLead field lead')
    (htail : Hides field tail) :
    Statements field
      (lead ++ (head ++ '\x7b' :: (s ++ (lead' ++ ([] ++ '\x7d' :: ([] ++ (tail ++ [';']))))))) := by
  have hnone (u v : Text) : ¬ Mention field [] u v := by
    intro hm
    have hnil := hm.text_eq.symm
    simp only [List.append_eq_nil_iff] at hnil
    exact hfield.1 hnil.1.2
  have hempty : Hides field [] :=
    ⟨⟨allBlank_nil.plain, balanced_nil⟩, fun u v hm => absurd hm (hnone u v)⟩
  have hclose : TaggedLead field [] :=
    ⟨.blanks allBlank_nil, fun u v hm => absurd hm (hnone u v)⟩
  exact .cons hlead hhead rfl (h.append (.cons hlead' hempty rfl (.cons hclose htail rfl .nil)))

theorem isMember (hfield : IsWord field) (h : Statements field s) {p : Place}
    (hp : EndsBefore false p.before) {r u v : Text} (hm : Mention field (s ++ r) u v) :
    isMember (mentionAt p field u v) = false ∨ ∃ x, u = s ++ x ∧ Mention field r x v := by
  induction h generalizing p u with
  | nil => exact .inr ⟨u, rfl, hm⟩
  | @cons lead s rest c hlead hs hc _ ih =>
    have hsplit : (lead ++ (s ++ c :: rest)) ++ r = lead ++ (s ++ c :: (rest ++ r)) := by simp
    rw [hsplit] at hm
    rcases isMember_of_statement hfield hp hlead hs.clause hc hm with
      hnone | ⟨x, y, -, hmention, hopen⟩ | ⟨x, rfl, hbehind⟩
    · exact .inl hnone
    · exact absurd (hs.hidden x y hmention) hopen
    · -- Behind the statement the lookup starts anew: of what precedes, only the end of it is seen.
      have hp' : EndsBefore false (c :: ((lead ++ s).reverse ++ p.before)) := hc
      have hnext : mentionAt p field (lead ++ (s ++ c :: x)) v =
          mentionAt ⟨c :: ((lead ++ s).reverse ++ p.before), rest ++ r⟩ field x v := by
        simp [mentionAt]
      rw [hnext]
      refine (ih hp' hbehind).imp_right ?_
      rintro ⟨y, rfl, hmention⟩
      exact ⟨y, by simp, hmention⟩

end Statements

theorem closesPointer_eq_false {s : Text} (hs : (skipBlanks s).head? ≠ some ')') :
    closesPointer s = false := by
  unfold closesPointer
  split
  · next h => exact absurd (by rw [h]; rfl) hs
  · rfl

theorem EndsName.reads {v : Text} (h : EndsName v) (r : Text) :
    closesPointer (v ++ ';' :: r) = false ∧ endsDeclarator (v ++ ';' :: r) = true ∧
      (v ++ ';' :: r).head?.any isWordChar = false := by
  have hcut {w s : Text} {c : Char} (hw : AllBlank w) (hc : c ∈ [';', ',', '[', ':']) :
      closesPointer (w ++ c :: s) = false ∧ endsDeclarator (w ++ c :: s) = true ∧
        (w ++ c :: s).head?.any isWordChar = false := by
    have hmark : isBlank c = false ∧ c ≠ ')' ∧ isWordChar c = false ∧
        (c == ';' || c == '[' || c == ':' || c == ',') = true := by
      simp only [List.mem_cons, List.not_mem_nil, or_false] at hc
      rcases hc with rfl | rfl | rfl | rfl <;> decide +kernel
    have hskip : skipBlanks (w ++ c :: s) = c :: s := by
      rw [skipBlanks_append hw, skipBlanks_cons hmark.1]
    refine ⟨closesPointer_eq_false (by rw [hskip]; simpa using hmark.2.1), ?_, ?_⟩
    · rw [endsDeclarator, hskip, List.head?_cons, Option.any_some, hmark.2.2.2, Bool.true_or]
    · cases w with
      | nil => exact hmark.2.2.1
      | cons d w => exact isWordChar_of_isBlank (hw d (List.mem_cons_self ..))
  cases h with
  | nothing hw => exact hcut hw (by simp)
  | @mark w r' c hw hc =>
    rw [List.append_assoc, List.cons_append]
    exact hcut hw (List.mem_cons_of_mem _ hc)
  | @word w a r' hw hgap ha hmark hedge =>
    have hclose : isWordChar ')' = false := by decide +kernel
    have hafter := afterAttribute_word hw ha hmark (Attributes.isWordChar_head? hedge r)
    rw [List.append_assoc, List.append_assoc]
    refine ⟨closesPointer_eq_false ?_, ?_, ?_⟩
    · rw [skipBlanks_append_word hw ha]
      exact head?_append_word_ne ha hclose _
    · rw [endsDeclarator, hafter, Option.isSome_some, Bool.or_true]
    · obtain ⟨d, w, rfl⟩ := List.exists_cons_of_ne_nil hgap
      exact isWordChar_of_isBlank (hw d (List.mem_cons_self ..))

theorem closesPointer_call {x x' : Text} (hx : AllBlank x) (hx' : AllBlank x') (r r' : Text) :
    closesPointer ((x ++ ')' :: (x' ++ '(' :: r)) ++ r') = true := by
  rw [List.append_assoc, closesPointer, skipBlanks_append hx, List.cons_append, skipBlanks_cons rfl]
  simp only [List.append_assoc]
  rw [skipBlanks_append hx', List.cons_append, skipBlanks_cons rfl]
  rfl

theorem parenDepth_pointer {u w w' : Text} (hu : parenDepth u = 0) (hw : AllBlank w) (hw' : AllBlank w') :
    parenDepth (u ++ '(' :: (w ++ '*' :: w')) = 1 := by
  rw [parenDepth_append, hu, parenDepth_open, parenDepth_star hw hw']
  rfl

namespace Declarator

variable {u v : Text}

theorem getLast?_before (h : Declarator u v) :
    u.getLast?.any (fun c => isBlank c || c == '*' || c == ',') = true := by
  cases h with
  | object hlast => exact hlast
  | @pointer u w w' x x' r hdepth hw hw' =>
    have hend : u ++ '(' :: (w ++ '*' :: w') = (u ++ '(' :: w) ++ '*' :: w' := by simp
    rw [hend, List.getLast?_append_of_ne_nil _ (List.cons_ne_nil '*' w'), List.getLast?_cons]
    cases hlast : w'.getLast? with
    | none => rfl
    | some c => simp [hw' c (List.mem_of_getLast? hlast)]

theorem mayBeginName (h : Declarator u v) (b : Text) : mayBeginName (u.reverse ++ b) = true := by
  obtain ⟨c, hlast, hc⟩ := (Option.any_eq_true _ _).1 h.getLast?_before
  have hplain : isWordChar c = false ∧ c ≠ '.' ∧ c ≠ '>' := by
    simp only [Bool.or_eq_true, beq_iff_eq] at hc
    rcases hc with (hc | rfl) | rfl
    · refine ⟨isWordChar_of_isBlank hc, ?_, ?_⟩
      · rintro rfl
        cases hc
      · rintro rfl
        cases hc
    · decide +kernel
    · decide +kernel
  simp [HeaderProbe.mayBeginName, List.head?_append, hlast, hplain]

theorem isWordChar_head? (h : Declarator u v) (r : Text) :
    (v ++ ';' :: r).head?.any isWordChar = false := by
  cases h with
  | object _ _ _ hv => exact (hv.reads r).2.2
  | @pointer u w w' x x' r' _ _ _ hx =>
    cases x with
    | nil =>
      have hclose : isWordChar ')' = false := by decide +kernel
      exact hclose
    | cons c x => exact isWordChar_of_isBlank (hx c (List.mem_cons_self ..))

end Declarator

namespace Declares

variable {field u v : Text}

theorem skipBlanks_eq (h : Declares field u v) : skipBlanks u = u := by
  obtain ⟨c, hhead, hc⟩ := (Option.any_eq_true _ _).1 h.begins
  obtain ⟨r, rfl⟩ := List.head?_eq_some_iff.1 hhead
  exact skipBlanks_cons (isBlank_of_isWordChar hc) r

theorem skipBlanks_reverse_ne (h : Declares field u v) : skipBlanks u.reverse ≠ [] := by
  obtain ⟨c, hhead, hc⟩ := (Option.any_eq_true _ _).1 h.begins
  intro hnil
  have hblank := (allBlank_of_skipBlanks hnil).reverse c
  rw [List.reverse_reverse] at hblank
  rw [isWordChar_of_isBlank (hblank (List.mem_of_mem_head? hhead))] at hc
  cases hc

theorem statementHead_eq (h : Declares field u v) {b lead : Text} (hb : EndsBefore false b)
    (hlead : Lead DirectiveLine false lead) : statementHead (u.reverse ++ (lead.reverse ++ b)) = u := by
  rw [statementHead_of_lead hb hlead fun c hc => h.clause.plain c (List.mem_append_left _ hc),
    h.skipBlanks_eq]

theorem isMember (h : Declares field u v) {b lead : Text} (hb : EndsBefore false b)
    (hlead : Lead DirectiveLine false lead) (r : Text) :
    isMember ⟨⟨u.reverse ++ (lead.reverse ++ b), field ++ (v ++ ';' :: r)⟩, (), v ++ ';' :: r⟩ = true := by
  have hhead := h.statementHead_eq hb hlead
  have hword := wordBefore_append h.skipBlanks_reverse_ne (hlead.isWordChar_head? hb.isWordChar_head?)
  have hdeclarator := h.declarator
  cases hdeclarator with
  | object _ hdepth htag hv =>
    obtain ⟨hcloses, hends, -⟩ := hv.reads r
    have htag' : tagKeywords.contains (wordBefore u.reverse) = false := Bool.eq_false_iff.2 htag
    simp only [HeaderProbe.isMember, hhead, hword, hcloses, hdepth, hends, htag']
    rfl
  | @pointer u w w' x x' r' hdepth hw hw' hx hx' =>
    simp only [HeaderProbe.isMember, hhead, closesPointer_call hx hx', opensPointer_star u hw hw',
      parenDepth_pointer hdepth hw hw']
    rfl

end Declares

section

variable {field before lead u v after : Text} {p : Place} (hfield : IsWord field)
  (hopen : EndsBefore false p.before)
  (hbody : p.after = before ++ (lead ++ ((u ++ (field ++ v)) ++ ';' :: after)))
  (hbefore : Statements field before) (hlead : TaggedLead field lead) (hd : Declares field u v)
include hfield hopen hbody hbefore hlead hd

theorem isMember_before_declared {x y : Text} (hxy : Met p field x y)
    (hlt : x.length < (before ++ (lead ++ u)).length) : isMember (mentionAt p field x y) = false := by
  have hmention := hxy.mention
  rw [hbody] at hmention
  rcases hbefore.isMember hfield hopen hmention with hnone | ⟨x', rfl, hrest⟩
  · exact hnone
  · have hnext : mentionAt p field (before ++ x') y =
        mentionAt ⟨before.reverse ++ p.before, []⟩ field x' y := by
      simp [mentionAt]
    rw [hnext]
    simp only [List.length_append] at hlt
    rcases isMember_of_statement (p := ⟨_, []⟩) hfield (hbefore.endsBefore hopen) hlead hd.clause rfl hrest
      with hnone | ⟨z, z', rfl, hz, hleft⟩ | ⟨z, rfl, -⟩
    · exact hnone
    · rw [List.length_append] at hlt
      exact absurd (hd.hidden z z' hz (by omega)) hleft
    · simp only [List.length_append, List.length_cons] at hlt
      omega

theorem memberExtent?_of_declares {definition : Text} (hp : p = bodyPlace (mask definition)) :
    memberExtent? field definition =
      some (p.offset + (before ++ lead).length,
        p.offset + (before ++ lead).length + (u ++ (field ++ (v ++ [';']))).length) := by
  have hends := hbefore.endsBefore hopen
  have hcontext : (before ++ (lead ++ u)).reverse ++ p.before =
      u.reverse ++ (lead.reverse ++ (before.reverse ++ p.before)) := by simp
  have hmet : Met p field (before ++ (lead ++ u)) (v ++ ';' :: after) := by
    refine ⟨by rw [hbody]; simp, ?_, hd.declarator.isWordChar_head? after⟩
    rw [hcontext]
    exact hd.declarator.mayBeginName _
  have hmember : isMember (mentionAt p field (before ++ (lead ++ u)) (v ++ ';' :: after)) = true := by
    rw [mentionAt, hcontext]
    exact hd.isMember hends hlead.blank after
  have hsemicolon : ';' ∉ v := by
    intro hv
    cases (hd.clause.plain ';' (by simp [hv])).1
  rw [memberExtent?_eq_some hfield hp hmet hsemicolon hmember fun _ _ hxy hlt =>
    isMember_before_declared hfield hopen hbody hbefore hlead hd hxy hlt, hcontext, statementStart,
    hd.statementHead_eq hends hlead.blank]
  simp only [Place.offset, List.length_append, List.length_reverse, Option.some.injEq, Prod.mk.injEq]
  omega

end

theorem member_found_exactly {type field t before lead u v after : Text} {struct : Span}
    (hfield : IsWord field) (hstruct : findStruct type t = some struct)
    (hbody : (bodyPlace (mask struct.text)).after =
      before ++ (lead ++ ((u ++ (field ++ v)) ++ ';' :: after)))
    (hbefore : Statements field before) (hlead : TaggedLead field lead) (hd : Declares field u v) :
    ∃ start, start = struct.start + ((bodyPlace (mask struct.text)).offset + (before ++ lead).length) ∧
      findMember type field t =
        some (Span.cut t start (start + (u ++ (field ++ (v ++ [';']))).length)) := by
  have hopen : EndsBefore false (bodyPlace (mask struct.text)).before := by
    rw [EndsBefore, bodyPlace_before (by rw [hbody]; simp)]
    rfl
  have hextent := memberExtent?_of_declares hfield hopen hbody hbefore hlead hd rfl
  refine ⟨_, rfl, ?_⟩
  rw [findMember, hstruct, Option.bind_eq_bind, Option.bind_some, hextent, Nat.add_assoc struct.start]
  rfl

def nestedText : Text :=
  ("struct s \x7b\n struct f \x7b int x; \x7d *n;\n#if A\n union \x7b\n" ++
    "  int (*cb)(int (*f)(f));\n  int b, *f __a, c[3];\n \x7d;\n\x7d;").toList

theorem nested_member_found :
    findMember "s".toList "f".toList nestedText =
      some ⟨"int b, *f __a, c[3];".toList, 79, 99, 6⟩ := by
  have hf : IsWord "f".toList := by decide +kernel
  have hblanks {w : Text} (hw : AllBlank w) (htag : ∀ u v, Mention "f".toList w u v → Tagged u) :
      TaggedLead "f".toList w :=
    ⟨.blanks hw, htag⟩
  have hline : DirectiveLine "#if A".toList :=
    ⟨by decide +kernel, by decide +kernel, by decide +kernel, by decide +kernel⟩
  have hif : TaggedLead "f".toList ([] ++ '\n' :: ("#if A".toList ++ '\n' :: [' '])) :=
    ⟨.newline allBlank_nil (.whole hline (.blanks (by decide +kernel))), by decide +kernel⟩
  have hlead : TaggedLead "f".toList "\n  ".toList := hblanks (by decide +kernel) (by decide +kernel)
  have hspace : TaggedLead "f".toList [' '] := hblanks (by decide +kernel) (by decide +kernel)
  have hhead : Hides "f".toList "struct f ".toList :=
    ⟨⟨by decide +kernel, by decide +kernel⟩, by decide +kernel⟩
  have hx : Hides "f".toList "int x".toList := ⟨⟨by decide +kernel, by decide +kernel⟩, by decide +kernel⟩
  have htail : Hides "f".toList " *n".toList := ⟨⟨by decide +kernel, by decide +kernel⟩, by decide +kernel⟩
  have hunion : Hides "f".toList "union ".toList :=
    ⟨⟨by decide +kernel, by decide +kernel⟩, by decide +kernel⟩
  have hcallback : Hides "f".toList "int (*cb)(int (*f)(f))".toList :=
    ⟨⟨by decide +kernel, by decide +kernel⟩, by decide +kernel⟩
  have hinner := Statements.cons hspace hx (c := ';') rfl .nil
  have hnested := Statements.nested hf (hblanks (w := "\n ".toList) (by decide +kernel) (by decide +kernel))
    hhead hinner hspace htail
  have hbefore := hnested.append
    (.cons hif hunion (c := '\x7b') rfl (.cons hlead hcallback (c := ';') rfl .nil))
  have hd : Declares "f".toList "int b, *".toList ([' '] ++ ("__a".toList ++ ", c[3]".toList)) :=
    ⟨⟨by decide +kernel, by decide +kernel⟩, by decide +kernel,
      .object (by decide +kernel) (by decide +kernel) (by decide +kernel)
        (.word allBlank_space (by simp) (by decide +kernel) (by decide +kernel) (by decide +kernel)),
      by decide +kernel⟩
  have hfind : findStruct "s".toList nestedText = some (Span.cut nestedText 0 105) := by
    decide +kernel
  obtain ⟨start, hstart, hfound⟩ :=
    member_found_exactly (v := [' '] ++ ("__a".toList ++ ", c[3]".toList)) hf hfind
      (by decide +kernel : _ = _ ++ (_ ++ (_ ++ ';' :: "\n \x7d;\n\x7d".toList))) hbefore hlead hd
  rw [hfound, hstart]
  decide +kernel

end HeaderProbe
