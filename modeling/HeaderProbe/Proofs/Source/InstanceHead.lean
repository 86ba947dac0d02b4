import HeaderProbe.Proofs.Source.Designator

namespace HeaderProbe

open Text

def spaced : List (Text × Text) → Text
  | [] => []
  | (gap, w) :: ws => gap ++ (w ++ spaced ws)

def IsSpaced (ws : List (Text × Text)) : Prop :=
  ∀ p ∈ ws, p.1 ≠ [] ∧ AllBlank p.1 ∧ IsWord p.2

instance (ws : List (Text × Text)) : Decidable (IsSpaced ws) :=
  inferInstanceAs (Decidable (∀ p ∈ ws, _))

theorem isSpaced_cons {gap w : Text} {ws : List (Text × Text)} :
    IsSpaced ((gap, w) :: ws) ↔ (gap ≠ [] ∧ AllBlank gap ∧ IsWord w) ∧ IsSpaced ws :=
  List.forall_mem_cons

theorem close_eq {w : Text} (hw : w ≠ []) : wordRun.close w = [w.reverse] := by
  simp [wordRun.close, hw]

theorem wordRun_word {x : Text} (hx : ∀ c ∈ x, isWordChar c = true) (w s : Text) :
    wordRun w (x ++ s) = wordRun (x.reverse ++ w) s := by
  induction x generalizing w with
  | nil => rfl
  | cons c x ih =>
    obtain ⟨hc, hx⟩ := List.forall_mem_cons.1 hx
    rw [List.cons_append, wordRun, if_pos hc, ih hx, List.reverse_cons, List.append_assoc]
    rfl

theorem wordRun_blank {c : Char} (hc : isBlank c = true) (w s : Text) :
    wordRun w (c :: s) = (wordRun.close w ++ (wordRun [] s).1, (wordRun [] s).2) := by
  rw [wordRun, if_neg (by simp [isWordChar_of_isBlank hc]), if_pos hc]

theorem wordRun_blanks {gap : Text} (hgap : AllBlank gap) (s : Text) :
    wordRun [] (gap ++ s) = wordRun [] s := by
  induction gap with
  | nil => rfl
  | cons c gap ih =>
    obtain ⟨hc, hgap⟩ := List.forall_mem_cons.1 hgap
    rw [List.cons_append, wordRun_blank hc, ih hgap]
    rfl

theorem wordRun_spaced {ws : List (Text × Text)} (hws : IsSpaced ws) {gap : Text} (hgap : AllBlank gap)
    {c : Char} (hword : isWordChar c = false) (hblank : isBlank c = false) (w s : Text) :
    wordRun w (spaced ws ++ (gap ++ c :: s)) = (wordRun.close w ++ ws.map Prod.snd, c :: s) := by
  have hstop (w : Text) : wordRun w (c :: s) = (wordRun.close w, c :: s) := by
    simp [wordRun, hword, hblank]
  induction ws generalizing w with
  | nil =>
    cases gap with
    | nil => simpa [spaced] using hstop w
    | cons b gap =>
      obtain ⟨hb, hgap⟩ := List.forall_mem_cons.1 hgap
      change wordRun w (b :: (gap ++ c :: s)) = _
      rw [wordRun_blank hb, wordRun_blanks hgap, hstop]
      rfl
  | cons p ws ih =>
    obtain ⟨g, x⟩ := p
    obtain ⟨⟨hne, hg, hx⟩, hrest⟩ := isSpaced_cons.1 hws
    obtain ⟨b, g, rfl⟩ := List.exists_cons_of_ne_nil hne
    obtain ⟨hb, hg⟩ := List.forall_mem_cons.1 hg
    have hclose : wordRun.close (x.reverse ++ []) = [x] := by
      rw [List.append_nil, close_eq (by simpa using hx.1), List.reverse_reverse]
    simp only [spaced, List.cons_append, List.append_assoc]
    rw [wordRun_blank hb, wordRun_blanks hg, wordRun_word fun _ hc => hx.isWordChar hc, ih hrest, hclose]
    rfl

theorem exists_of_wordRun (w s : Text) :
    ∃ tail ws gap, s = tail ++ (spaced ws ++ (gap ++ (wordRun w s).2)) ∧
      (∀ c ∈ tail, isWordChar c = true) ∧ IsSpaced ws ∧ AllBlank gap ∧
      (wordRun w s).1 = wordRun.close (tail.reverse ++ w) ++ ws.map Prod.snd := by
  have hnone : IsSpaced [] := by simp [IsSpaced]
  induction s generalizing w with
  | nil => exact ⟨[], [], [], rfl, by simp, hnone, allBlank_nil, by simp [wordRun]⟩
  | cons c s ih =>
    by_cases hword : isWordChar c = true
    · obtain ⟨tail, ws, gap, hs, htail, hws, hgap, hwords⟩ := ih (c :: w)
      rw [wordRun, if_pos hword]
      refine ⟨c :: tail, ws, gap, congrArg (c :: ·) hs, List.forall_mem_cons.2 ⟨hword, htail⟩, hws, hgap, ?_⟩
      rw [hwords, List.reverse_cons, List.append_assoc]
      rfl
    by_cases hblank : isBlank c = true
    · obtain ⟨tail, ws, gap, hs, htail, hws, hgap, hwords⟩ := ih []
      rw [wordRun_blank hblank]
      cases tail with
      | nil =>
        cases ws with
        | nil =>
          exact ⟨[], [], c :: gap, congrArg (c :: ·) hs, by simp, hws, List.forall_mem_cons.2 ⟨hblank, hgap⟩,
            congrArg (wordRun.close w ++ ·) hwords⟩
        | cons p ws =>
          obtain ⟨g, x⟩ := p
          obtain ⟨⟨-, hg, hx⟩, hws⟩ := isSpaced_cons.1 hws
          exact ⟨[], (c :: g, x) :: ws, gap, congrArg (c :: ·) hs, by simp,
            isSpaced_cons.2 ⟨⟨List.cons_ne_nil c g, List.forall_mem_cons.2 ⟨hblank, hg⟩, hx⟩, hws⟩, hgap,
            congrArg (wordRun.close w ++ ·) hwords⟩
      | cons d tail =>
        refine ⟨[], ([c], d :: tail) :: ws, gap, ?_, by simp, isSpaced_cons.2 ⟨⟨by simp, ?_, ?_⟩, hws⟩, hgap, ?_⟩
        · simpa [spaced] using hs
        · simpa [AllBlank] using hblank
        · exact ⟨List.cons_ne_nil d tail, List.all_eq_true.2 htail⟩
        · have hclose : wordRun.close (d :: tail).reverse = [d :: tail] := by
            rw [close_eq (by simp), List.reverse_reverse]
          rw [hwords, List.append_nil, hclose]
          rfl
    · have hstop : wordRun w (c :: s) = (wordRun.close w, c :: s) := by
        simp [wordRun, hword, hblank]
      rw [hstop]
      exact ⟨[], [], [], rfl, by simp, hnone, allBlank_nil, by simp⟩

theorem wordRun_ne_nil {w : Text} (hw : w ≠ []) (s : Text) : (wordRun w s).1 ≠ [] := by
  obtain ⟨tail, ws, -, -, -, -, -, hwords⟩ := exists_of_wordRun w s
  rw [hwords, close_eq (by simp [hw])]
  simp

theorem wordRun_append {x : Text} (hx : ∀ c ∈ x, isWordChar c = true ∨ isBlank c = true) (hne : x ≠ [])
    (hlast : x.getLast?.any isWordChar = false) (w s : Text) :
    wordRun w (x ++ s) = ((wordRun w x).1 ++ (wordRun [] s).1, (wordRun [] s).2) := by
  induction x generalizing w with
  | nil => exact absurd rfl hne
  | cons c x ih =>
    obtain ⟨hc, hx⟩ := List.forall_mem_cons.1 hx
    cases x with
    | nil =>
      have hblank : isBlank c = true := hc.resolve_left (by simpa using hlast)
      change wordRun w (c :: s) = _
      rw [wordRun_blank hblank, wordRun_blank hblank]
      simp [wordRun, wordRun.close]
    | cons d x =>
      have hrest := ih hx (List.cons_ne_nil d x) (by simpa using hlast)
      rcases hc with hc | hc
      · rw [List.cons_append, wordRun, if_pos hc, hrest, wordRun.eq_2 w c (d :: x), if_pos hc]
      · rw [List.cons_append, wordRun_blank hc, hrest, wordRun_blank hc w (d :: x), List.append_assoc]

theorem declaredName_append {v : Text} {annotations : List Text} (hv : isAttribute v = false)
    (hannotations : ∀ a ∈ annotations, isAttribute a = true) (ws : List Text) :
    declaredName (ws ++ v :: annotations) = some v := by
  induction ws with
  | nil => rw [List.nil_append, declaredName, if_pos (List.all_eq_true.2 hannotations)]
  | cons w ws ih =>
    rw [List.cons_append, declaredName, if_neg (by simp [hv]), ih]

theorem declaredName_eq_some {ws : List Text} (hne : ws ≠ []) : ∃ w, declaredName ws = some w := by
  induction ws with
  | nil => exact absurd rfl hne
  | cons w ws ih =>
    rw [declaredName]
    split
    · exact ⟨w, rfl⟩
    · next hrest => exact ih (by rintro rfl; exact hrest rfl)

theorem isAttribute_of_declaredName {ws : List Text} {v w : Text} (hw : w ∈ ws) (hplain : isAttribute w = false)
    (h : declaredName ws = some v) : isAttribute v = false := by
  induction ws generalizing w with
  | nil => cases hw
  | cons a ws ih =>
    rw [declaredName] at h
    split at h
    · next hall =>
      cases h
      rcases List.mem_cons.1 hw with rfl | hw
      · exact hplain
      · rw [List.all_eq_true.1 hall w hw] at hplain
        cases hplain
    · next hall =>
      obtain ⟨w', hw', hplain'⟩ : ∃ w' ∈ ws, isAttribute w' = false := by simpa using hall
      exact ih hw' hplain' h

def InstanceHead (type : Text) (words : List Text) (u : Text) : Prop :=
  ∃ ws gap gap', u = "struct".toList ++ (spaced ws ++ (gap ++ '=' :: gap')) ∧ IsSpaced ws ∧ AllBlank gap ∧
    AllBlank gap' ∧ ws.map Prod.snd = type :: words

theorem instanceShape_eq_some_iff {type : Text} (htype : IsWord type) {b s name r : Text} :
    instanceShape type ⟨b, s⟩ = some (name, r) ↔
      b.head?.any isWordChar = false ∧ ∃ w y q, s = "struct".toList ++ (w ++ (type ++ y)) ∧ w ≠ [] ∧
        AllBlank w ∧ y.head?.any isBlank = true ∧ declaredName (wordRun [] y).1 = some name ∧
          (wordRun [] y).2 = '=' :: q ∧ skipBlanks q = '{' :: r := by
  have hedge (x : Text) : isWordEdge b.head? ("struct".toList ++ x).head? = !b.head?.any isWordChar := by
    have hs : isWordChar 's' = true := by decide +kernel
    simp [isWordEdge, hs]
  have hblank (c : Char) (x : Text) (hc : isBlank c = true) : type.isPrefixOf? (c :: x) = none := by
    obtain ⟨d, k, rfl⟩ := List.exists_cons_of_ne_nil htype.1
    have hd : isWordChar d = true := htype.isWordChar (List.mem_cons_self ..)
    simp [List.isPrefixOf?, isWordChar_ne hd (isWordChar_of_isBlank hc)]
  simp only [instanceShape]
  constructor
  · intro h
    split at h
    · next hbegin =>
      simp only [Option.bind_eq_bind, Option.bind_eq_some_iff, List.isPrefixOf?_eq_some_iff_append_eq] at h
      obtain ⟨x, rfl, hx⟩ := h
      rw [hedge] at hbegin
      obtain ⟨c, w, z, rfl, hw, hz⟩ := exists_of_pastBlanks hx
      simp only [Option.bind_eq_some_iff, List.isPrefixOf?_eq_some_iff_append_eq] at hz
      obtain ⟨y, rfl, _, hguard, declared, hdeclared, hsign⟩ := hz
      split at hsign
      · next q hq =>
        split at hsign
        · next q' hq' =>
          cases hsign
          have hhead : y.head?.any isBlank = true := by simpa [guard] using hguard
          exact ⟨by simpa using hbegin, c :: w, y, q, rfl, List.cons_ne_nil c w, hw, hhead, hdeclared, hq, hq'⟩
        · cases hsign
      · cases hsign
    · cases h
  · rintro ⟨hbegin, w, y, q, rfl, hne, hw, hhead, hdeclared, hq, hbrace⟩
    rw [if_pos (by rw [hedge, hbegin]; rfl)]
    simp only [Option.bind_eq_bind, Option.bind_eq_some_iff, List.isPrefixOf?_eq_some_iff_append_eq]
    refine ⟨w ++ (type ++ y), rfl, ?_⟩
    refine (pastBlanks_eq_some_iff fun c x hc => by simp [hblank c x hc]).2 ⟨w, type ++ y, hne, hw, rfl, ?_⟩
    simp only [Option.bind_eq_some_iff, List.isPrefixOf?_eq_some_iff_append_eq]
    refine ⟨y, rfl, (), by simp [guard, hhead], name, hdeclared, ?_⟩
    simp only [hq, hbrace]

theorem isWord_struct : IsWord "struct".toList := by
  decide +kernel

theorem instanceShape_iff_head {type : Text} (htype : IsWord type) {b s name r : Text} :
    instanceShape type ⟨b, s⟩ = some (name, r) ↔
      b.head?.any isWordChar = false ∧
        ∃ u words, InstanceHead type words u ∧ declaredName words = some name ∧ s = u ++ '{' :: r := by
  have hsign : isWordChar '=' = false := by decide +kernel
  rw [instanceShape_eq_some_iff htype]
  refine and_congr_right fun _ => ⟨?_, ?_⟩
  · rintro ⟨w, y, q, rfl, hne, hw, hhead, hdeclared, hq, hbrace⟩
    obtain ⟨tail, ws, gap, hy, htail, hws, hgap, hwords⟩ := exists_of_wordRun [] y
    obtain ⟨-, gap', hgap', rfl⟩ := skipBlanks_eq_cons_iff.1 hbrace
    rw [hq] at hy
    obtain rfl : tail = [] := by
      by_contra hnil
      obtain ⟨c, tail, rfl⟩ := List.exists_cons_of_ne_nil hnil
      have hc : isBlank c = true := by simpa [hy] using hhead
      have hword := htail c (List.mem_cons_self ..)
      rw [isWordChar_of_isBlank hc] at hword
      cases hword
    rw [hwords] at hdeclared
    refine ⟨"struct".toList ++ (spaced ((w, type) :: ws) ++ (gap ++ '=' :: gap')), ws.map Prod.snd,
      ⟨(w, type) :: ws, gap, gap', rfl, isSpaced_cons.2 ⟨⟨hne, hw, htype⟩, hws⟩, hgap, hgap', rfl⟩, hdeclared, ?_⟩
    rw [hy]
    simp only [spaced, List.append_assoc, List.cons_append, List.nil_append]
  · rintro ⟨_, words, ⟨ws, gap, gap', rfl, hws, hgap, hgap', hwords⟩, hdeclared, rfl⟩
    obtain ⟨p, ws, rfl⟩ := List.exists_cons_of_ne_nil (l := ws) (by rintro rfl; cases hwords)
    obtain ⟨w, type'⟩ := p
    obtain ⟨rfl, rfl⟩ := List.cons.inj hwords
    obtain ⟨⟨hne, hw, -⟩, hrest⟩ := isSpaced_cons.1 hws
    have hrun := wordRun_spaced hrest hgap hsign (by decide) [] (gap' ++ '{' :: r)
    refine ⟨w, spaced ws ++ (gap ++ '=' :: (gap' ++ '{' :: r)), gap' ++ '{' :: r, ?_, hne, hw, ?_,
      by rw [hrun]; exact hdeclared, by rw [hrun], by rw [skipBlanks_append hgap', skipBlanks_cons (by decide)]⟩
    · simp only [spaced, List.append_assoc, List.cons_append]
    cases ws with
    | nil => cases hdeclared
    | cons p ws =>
      obtain ⟨g, x⟩ := p
      obtain ⟨⟨hg, hblank, -⟩, -⟩ := isSpaced_cons.1 hrest
      obtain ⟨c, g, rfl⟩ := List.exists_cons_of_ne_nil hg
      simpa [spaced] using hblank c (List.mem_cons_self ..)

namespace InstanceHead

variable {type : Text} {words words' : List Text} {u u' x : Text}

theorem exists_run (h : InstanceHead type words u) :
    ∃ run gap, u = run ++ '=' :: gap ∧ AllBlank gap ∧ (∀ c ∈ run, isWordChar c = true ∨ isBlank c = true) ∧
      wordRun [] u = ("struct".toList :: type :: words, '=' :: gap) := by
  obtain ⟨ws, gap, gap', rfl, hws, hgap, hgap', hwords⟩ := h
  have hspaced {ws : List (Text × Text)} (hws : IsSpaced ws) :
      ∀ c ∈ spaced ws, isWordChar c = true ∨ isBlank c = true := by
    induction ws with
    | nil => simp [spaced]
    | cons p ws ih =>
      obtain ⟨g, w⟩ := p
      obtain ⟨⟨-, hg, hw⟩, hrest⟩ := isSpaced_cons.1 hws
      intro c hc
      simp only [spaced, List.mem_append] at hc
      rcases hc with hc | hc | hc
      · exact .inr (hg c hc)
      · exact .inl (hw.isWordChar hc)
      · exact ih hrest c hc
  refine ⟨"struct".toList ++ (spaced ws ++ gap), gap', by simp only [List.append_assoc], hgap', ?_, ?_⟩
  · intro c hc
    rcases List.mem_append.1 hc with hc | hc
    · exact .inl (isWord_struct.isWordChar hc)
    · rcases List.mem_append.1 hc with hc | hc
      · exact hspaced hws c hc
      · exact .inr (hgap c hc)
  · have hclose : wordRun.close ("struct".toList.reverse ++ []) = ["struct".toList] := by
      rw [List.append_nil, close_eq (by decide), List.reverse_reverse]
    rw [wordRun_word fun _ hc => isWord_struct.isWordChar hc,
      wordRun_spaced hws hgap (by decide +kernel) (by decide), hclose, hwords]
    rfl

theorem brace_notMem (h : InstanceHead type words u) : '{' ∉ u := by
  obtain ⟨run, gap, rfl, hgap, hrun, -⟩ := h.exists_run
  have hword : isWordChar '{' = false := by decide +kernel
  intro hmem
  rcases List.mem_append.1 hmem with hmem | hmem
  · rcases hrun _ hmem with hc | hc
    · rw [hword] at hc
      cases hc
    · cases hc
  · rcases List.mem_cons.1 hmem with hc | hc
    · cases hc
    · cases hgap _ hc

theorem eq_append {r r' : Text} (h : InstanceHead type words u) (h' : InstanceHead type words' u')
    (htext : u ++ '{' :: r = x ++ (u' ++ '{' :: r')) (hx : x.length ≤ u.length) : u = x ++ u' ∧ r = r' := by
  obtain ⟨y, rfl⟩ : x <+: u := List.prefix_of_prefix_length_le ⟨_, htext.symm⟩ ⟨_, rfl⟩ hx
  have hnone := h.brace_notMem
  have hboth : '{' ∉ x ++ u' := by
    simp only [List.mem_append, not_or] at hnone ⊢
    exact ⟨hnone.1, h'.brace_notMem⟩
  rw [← List.append_assoc x u'] at htext
  obtain ⟨z, hz, hbrace⟩ := exists_of_append_eq hboth htext
  cases z with
  | nil => exact ⟨by rw [hz, List.append_nil], (List.cons.inj hbrace).2.symm⟩
  | cons c z =>
    rw [(List.cons.inj hbrace).1, hz] at hnone
    simp at hnone

theorem exists_extra (h : InstanceHead type words u) (h' : InstanceHead type words' u') (hu : u = x ++ u')
    (hx : x ≠ []) (hedge : x.getLast?.any isWordChar = false) :
    ∃ extra, "struct".toList ∈ extra ∧ words = extra ++ words' := by
  obtain ⟨run, gap, hsplit, hgap, hrun, hwords⟩ := h.exists_run
  obtain ⟨run', gap', hsplit', hgap', hrun', hwords'⟩ := h'.exists_run
  -- Neither a run of words nor a gap holds the equals sign, so that both heads end in the same one.
  have hsign {s : Text} (hs : ∀ c ∈ s, isWordChar c = true ∨ isBlank c = true) : '=' ∉ s := by
    intro hmem
    have hword : isWordChar '=' = false := by decide +kernel
    rcases hs _ hmem with hc | hc
    · rw [hword] at hc
      cases hc
    · cases hc
  have hruns : x ++ run' = run := by
    have heq : x ++ run' ++ '=' :: gap' = run ++ '=' :: gap := by
      rw [List.append_assoc, ← hsplit', ← hu, hsplit]
    exact ((List.append_cons_inj_of_notMem (hsign hrun) (hsign fun c hc => .inr (hgap c hc))).1 heq.symm).1.symm
  have hplain : ∀ c ∈ x, isWordChar c = true ∨ isBlank c = true := fun c hc =>
    hrun c (by rw [← hruns]; exact List.mem_append_left run' hc)
  have hall := congrArg Prod.fst (wordRun_append hplain hx hedge [] u')
  rw [← hu, hwords, hwords'] at hall
  have hfirst : (wordRun [] x).1 ≠ [] := by
    obtain ⟨c, x, rfl⟩ := List.exists_cons_of_ne_nil hx
    obtain ⟨ws, _, _, hstruct, -⟩ := h
    have hc : c = 's' := by
      rw [hu] at hstruct
      exact (List.cons.inj hstruct).1
    have hword : isWordChar c = true := by
      rw [hc]
      decide +kernel
    rw [wordRun, if_pos hword]
    exact wordRun_ne_nil (List.cons_ne_nil c []) x
  match hrest : (wordRun [] x).1 with
  | [] => exact absurd hrest hfirst
  | [a] =>
    rw [hrest] at hall
    obtain ⟨-, htail⟩ := List.cons.inj hall
    obtain ⟨htype, rfl⟩ := List.cons.inj htail
    exact ⟨[type], by rw [htype]; exact List.mem_singleton_self _, rfl⟩
  | a :: b :: rest =>
    rw [hrest] at hall
    obtain ⟨-, htail⟩ := List.cons.inj hall
    obtain ⟨-, rfl⟩ := List.cons.inj htail
    exact ⟨rest ++ ["struct".toList, type], by simp, by simp⟩

end InstanceHead

end HeaderProbe
