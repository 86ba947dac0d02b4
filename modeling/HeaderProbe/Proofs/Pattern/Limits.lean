import HeaderProbe.Proofs.Pattern.Readers

namespace HeaderProbe.Pattern

open Reading

variable {source : Text}

section Lookbehind

theorem Node.looksTooFar_sequence {ns : List Node} (h : ∀ n ∈ ns, n.looksTooFar = false) :
    (Node.sequence ns).looksTooFar = false := by
  fun_induction Node.sequence ns with
  | case1 => rfl
  | case2 n => exact h n List.mem_cons_self
  | case3 n rest _ ih =>
    obtain ⟨hn, hrest⟩ := List.forall_mem_cons.1 h
    rw [Node.looksTooFar, hn, ih hrest]
    rfl

theorem Node.looksTooFar_alternatives {ns : List Node} (h : ∀ n ∈ ns, n.looksTooFar = false) :
    (Node.alternatives ns).looksTooFar = false := by
  fun_induction Node.alternatives ns with
  | case1 => rfl
  | case2 n _ => exact h n List.mem_cons_self
  | case3 n _ => exact h n List.mem_cons_self
  | case4 n rest _ ih =>
    obtain ⟨hn, hrest⟩ := List.forall_mem_cons.1 h
    rw [Node.looksTooFar, hn, ih hrest]
    rfl

def Piece.Near (ps : List Piece) : Prop :=
  ∀ p ∈ ps, p.node.looksTooFar = false

namespace Piece.Near

theorem sequence {ps : List Piece} (h : Near ps) : (Piece.sequence ps).looksTooFar = false :=
  Node.looksTooFar_sequence (List.forall_mem_map.2 h)

theorem splitCommon {first : List Piece} {others : List (List Piece)} (hfirst : Near first)
    (hothers : ∀ o ∈ others, Near o) :
    Near (splitCommon first others).1 ∧ ∀ b ∈ (splitCommon first others).2, Near b := by
  fun_induction Piece.splitCommon first others with
  | case1 others => exact ⟨by simp [Near], List.forall_mem_cons.2 ⟨hfirst, hothers⟩⟩
  | case2 p ps others _ common rest hsplit ih =>
    obtain ⟨hp, hps⟩ := List.forall_mem_cons.1 hfirst
    have htails : ∀ o ∈ others.map List.tail, Near o :=
      List.forall_mem_map.2 fun o ho q hq => hothers o ho q (List.mem_of_mem_tail hq)
    obtain ⟨hcommon, hrest⟩ := ih hps htails
    rw [hsplit] at hcommon hrest
    exact ⟨List.forall_mem_cons.2 ⟨hp, hcommon⟩, hrest⟩
  | case3 p ps others _ => exact ⟨by simp [Near], List.forall_mem_cons.2 ⟨hfirst, hothers⟩⟩

theorem alternatives {f : Folding} {branches : List (List Piece)} (h : ∀ b ∈ branches, Near b) :
    Near (Piece.alternatives f branches) := by
  unfold Piece.alternatives
  split
  · simp [Near]
  · exact h _ List.mem_cons_self
  · next first others _ =>
    obtain ⟨hfirst, hothers⟩ := List.forall_mem_cons.1 h
    obtain ⟨hcommon, hrest⟩ := splitCommon hfirst hothers
    refine List.forall_mem_append.2 ⟨hcommon, List.forall_mem_singleton.2 ?_⟩
    split
    · rfl
    · exact Node.looksTooFar_alternatives (List.forall_mem_map.2 fun b hb => sequence (hrest b hb))

end Piece.Near

end Lookbehind

section Drafts

structure PlainLevel (flags : Flags) (items : List Item) (branches : List (List Piece)) : Prop where
  flags_eq : flags = {}
  items_near : ∀ i ∈ items, Piece.Near i.pieces
  branches_near : ∀ b ∈ branches, Piece.Near b

structure Draft.Plain (d : Draft) : Prop where
  level : PlainLevel d.flags d.items d.branches
  frames : ∀ f ∈ d.frames, (∃ group, f.kind = .capture group) ∧ PlainLevel f.flags f.items f.branches

def Draft.Tidy (source : Text) (d : Draft) : Prop :=
  extensionMark <:+: source ∨ d.Plain

namespace Draft

variable {d : Draft}

theorem Plain.init : ({} : Draft).Plain where
  level := ⟨rfl, by simp, by simp⟩
  frames := by simp

theorem Plain.push {piece : Piece} (h : d.Plain) (hpiece : piece.node.looksTooFar = false) (role : Role) :
    (d.push piece role).Plain where
  level :=
    { h.level with
      items_near := List.forall_mem_cons.2 ⟨List.forall_mem_singleton.2 hpiece, h.level.items_near⟩ }
  frames := h.frames

theorem Plain.openCapture (h : d.Plain) (group start : Nat) :
    (d.openGroup (.capture group) start).Plain where
  level := ⟨h.level.flags_eq, by simp [openGroup], by simp [openGroup]⟩
  frames := List.forall_mem_cons.2 ⟨⟨⟨group, rfl⟩, h.level⟩, h.frames⟩

theorem Plain.branch_near (h : d.Plain) : Piece.Near d.branch := by
  intro p hp
  obtain ⟨i, hi, hp⟩ := List.mem_flatMap.1 hp
  exact h.level.items_near i (List.mem_reverse.1 hi) p hp

theorem Plain.body_near (h : d.Plain) : Piece.Near d.body :=
  Piece.Near.alternatives fun b hb =>
    (List.mem_cons.1 (List.mem_reverse.1 hb)).elim (fun hb => hb ▸ h.branch_near) (h.level.branches_near b)

theorem Tidy.push {piece : Piece} (h : d.Tidy source) (hpiece : piece.node.looksTooFar = false)
    (role : Role) : (d.push piece role).Tidy source :=
  h.imp_right fun h => h.push hpiece role

theorem Tidy.leaf (h : d.Tidy source) (l : Leaf) : (d.leaf l).Tidy source :=
  h.push rfl _

theorem Tidy.literal (h : d.Tidy source) (code : Nat) : (d.literal code).Tidy source :=
  h.leaf _

end Draft

end Drafts

section Items

variable {d : Draft}

theorem keeps_repeatGroup (h : d.Tidy source) (group back : Nat) :
    Keeps source (repeatGroup d group back) (Draft.Tidy source) := by
  unfold repeatGroup
  split
  · exact Keeps.fail fun _ => trivial
  · exact (keeps_checkBehind ..).bind fun _ _ => Keeps.pure (h.push rfl _)

theorem keeps_digitEscape (h : d.Tidy source) (c : Char) :
    Keeps source (digitEscape d c) (Draft.Tidy source) := by
  have hgroup (digits : Text) : Keeps source (do
      let group := Text.natOf 10 digits
      if group ≤ d.groups.length then repeatGroup d group (digits.length + 1)
      else fail (.noSuchGroup group) digits.length) (Draft.Tidy source) := by
    dsimp only
    split
    · exact keeps_repeatGroup h ..
    · exact Keeps.fail fun _ => trivial
  unfold digitEscape
  split
  · exact (keeps_takeWhile ..).bind fun _ _ => Keeps.pure (h.literal _)
  · refine (keeps_takeWhile ..).bind fun second _ => ?_
    dsimp only
    split
    · exact hgroup _
    · split
      · refine (keeps_takeWhile ..).bind fun third _ => ?_
        split
        · exact hgroup _
        · exact (keeps_octalEscape _).bind fun _ _ => Keeps.pure (h.literal _)
      · exact hgroup _

theorem keeps_readEscape (h : d.Tidy source) (c : Char) :
    Keeps source (readEscape d c) (Draft.Tidy source) := by
  unfold readEscape
  dsimp only
  split
  · exact Keeps.pure (h.push rfl _)
  · exact Keeps.pure (h.push rfl _)
  · exact Keeps.pure (h.push rfl _)
  · exact Keeps.pure (h.push rfl _)
  · split
    · exact Keeps.pure (h.leaf _)
    · split
      · exact Keeps.pure (h.literal _)
      · split
        · next hread => exact (keeps_codeEscape hread).bind fun _ _ => Keeps.pure (h.literal _)
        · split
          · exact keeps_digitEscape h c
          · exact (keeps_plainEscape c).bind fun _ _ => Keeps.pure (h.literal _)

theorem keeps_readSet (h : d.Tidy source) : Keeps source (readSet d) (Draft.Tidy source) := by
  unfold readSet
  refine keeps_offset.bind fun _ _ => (keeps_accept _).bind fun _ _ => keeps_get.bind fun _ _ => ?_
  refine (keeps_readMembers ..).bind fun _ _ => ?_
  split
  · exact Keeps.pure (h.leaf _)
  · exact Keeps.pure (h.leaf _)

theorem keeps_readGreed : Keeps source readGreed fun _ => True := by
  unfold readGreed
  refine (keeps_accept _).bind fun _ _ => ?_
  split
  · exact Keeps.pure trivial
  · refine (keeps_accept _).bind fun _ _ => ?_
    split
    · exact Keeps.pure trivial
    · exact Keeps.pure trivial

theorem keeps_quantify (h : d.Tidy source) (least : Nat) (most : Option Nat) (start : Nat) :
    Keeps source (quantify d least most start) (Draft.Tidy source) := by
  unfold quantify
  refine keeps_offset.bind fun _ _ => ?_
  dsimp only
  split
  · exact Keeps.fail fun _ => trivial
  · exact Keeps.fail fun _ => trivial
  · exact Keeps.fail fun _ => trivial
  · next pieces items hitems =>
    refine keeps_readGreed.bind fun _ _ => Keeps.pure (h.imp_right fun h => ?_)
    obtain ⟨hpieces, hothers⟩ := List.forall_mem_cons.1 (hitems ▸ h.level.items_near)
    exact
      { level :=
          { h.level with
            items_near := List.forall_mem_cons.2 ⟨List.forall_mem_singleton.2 hpieces.sequence, hothers⟩ }
        frames := h.frames }

end Items

section Extensions

variable {d : Draft}

theorem keeps_openCapture (h : d.Tidy source) (start : Nat) (name : Option Text) :
    Keeps source (openCapture d start name) (Draft.Tidy source) := by
  have hopened (names : List (Text × Nat)) (groups : List (Option Width)) (group : Nat) :
      ({ d with groups := groups, names := names }.openGroup (.capture group) start).Tidy source :=
    h.imp_right fun h => Draft.Plain.openCapture ⟨h.level, h.frames⟩ group start
  unfold openCapture
  dsimp only
  split
  · exact Keeps.pure (hopened ..)
  · split
    · exact Keeps.fail_bind fun _ => trivial
    · exact Keeps.pure (hopened ..)

theorem keeps_readFlagGroup (hext : extensionMark <:+: source) (start : Nat) (t : Token) :
    Keeps source (readFlagGroup d start t) (Draft.Tidy source) := by
  unfold readFlagGroup
  refine (keeps_readFlags t).bind fun r _ => ?_
  split
  · split
    · refine keeps_offset.bind fun _ _ => Keeps.fail_bind fun _ => trivial
    · exact Keeps.pure (.inl hext)
  · exact Keeps.pure (.inl hext)

theorem keeps_readExtension (hext : extensionMark <:+: source) (start : Nat) :
    Keeps source (readExtension d start) (Draft.Tidy source) := by
  have htidy {d : Draft} : d.Tidy source := .inl hext
  have hkept {x : Reading Draft} (h : Keeps source x fun _ => True) : Keeps source x (Draft.Tidy source) :=
    h.weaken fun _ _ => htidy
  unfold readExtension
  refine keeps_take.bind fun t _ => ?_
  split
  · split
    · refine (keeps_accept _).bind fun _ _ => ?_
      split
      · exact (keeps_readName _).bind fun _ _ => keeps_openCapture htidy ..
      · refine (keeps_accept _).bind fun _ _ => ?_
        split
        · refine (keeps_readName _).bind fun _ _ => (keeps_namedGroup ..).bind fun _ _ => ?_
          exact keeps_repeatGroup htidy ..
        · refine keeps_take.bind fun _ _ => ?_
          split
          · exact Keeps.fail fun _ => trivial
          · exact Keeps.fail fun _ => trivial
    · exact Keeps.pure htidy
    · exact keeps_get.bind fun _ _ => (keeps_skipComment ..).bind fun _ _ => Keeps.pure htidy
    · exact Keeps.pure htidy
    · exact Keeps.pure htidy
    · refine keeps_take.bind fun _ _ => ?_
      split
      · split
        · exact Keeps.pure htidy
        · split
          · exact Keeps.pure htidy
          · exact Keeps.fail fun _ => trivial
      · exact Keeps.fail fun _ => trivial
    · exact hkept (keeps_readCondition ..)
    · exact Keeps.pure htidy
    · split
      · exact keeps_readFlagGroup hext ..
      · exact Keeps.fail fun _ => trivial
  · exact Keeps.fail fun _ => trivial

end Extensions

section Steps

variable {d : Draft}

theorem reads_readPlain (h : d.Tidy source) (start : Nat) (c : Char) :
    Reads source (Follows source [[c]]) (readPlain d start c) fun d c =>
      Follows source [] c ∧ d.Tidy source := by
  have hkept {x : Reading Draft} (hx : Keeps source x (Draft.Tidy source)) :
      Reads source (Follows source [[c]]) x fun d c => Follows source [] c ∧ d.Tidy source :=
    Reads.weaken hx (fun _ hc => hc.within) fun _ _ hd => hd
  unfold readPlain
  split
  · exact hkept (keeps_readSet h)
  · exact hkept (keeps_quantify h ..)
  · exact hkept (keeps_quantify h ..)
  · exact hkept (keeps_quantify h ..)
  · refine reads_readBounds.bind fun bounds => ?_
    split
    · exact keeps_quantify h ..
    · exact Keeps.pure (h.literal _)
  · exact hkept (Keeps.pure (h.leaf _))
  · refine (reads_accept _).bind fun marked => ?_
    cases marked with
    | true =>
      have hheld (c : Cursor) (hc : Follows source ([['(']] ++ [['?']]) c) :
          Follows source [] c ∧ extensionMark <:+: source :=
        ⟨hc.within, hc.flatten_infix_source⟩
      exact Reads.weaken (Reads.of_fact fun hext => keeps_readExtension hext start) hheld fun _ _ hd => hd
    | false => exact Reads.weaken (keeps_openCapture h start none) (fun _ hc => hc.within) fun _ _ hd => hd
  · exact hkept (Keeps.pure (h.push rfl _))
  · exact hkept (Keeps.pure (h.push rfl _))
  · exact hkept (Keeps.pure (h.literal _))

theorem keeps_skip : Keeps source (discard take) fun _ => True :=
  reads_take.discard.weaken (fun _ hc => hc) fun _ _ hc => ⟨hc.elim fun _ h => h.within, trivial⟩

theorem keeps_endBranch (h : d.Tidy source) : Keeps source (endBranch d) (Draft.Tidy source) := by
  have hended : Keeps source (do
      discard take
      return { d with items := [], branches := d.branch :: d.branches }) (Draft.Tidy source) := by
    refine keeps_skip.bind fun _ _ => Keeps.pure (h.imp_right fun h => ?_)
    refine ⟨⟨h.level.flags_eq, ?_, ?_⟩, h.frames⟩
    · simp
    · exact List.forall_mem_cons.2 ⟨h.branch_near, h.level.branches_near⟩
  unfold endBranch
  split
  · split
    · exact Keeps.fail_bind fun _ => trivial
    · exact hended
  · exact hended

theorem keeps_endGroup {f : Frame} {outer : List Frame} (h : d.Tidy source)
    (hframes : d.frames = f :: outer) : Keeps source (endGroup d f outer) (Draft.Tidy source) := by
  unfold endGroup
  refine keeps_skip.bind fun _ _ => Keeps.pure (h.imp_right fun h => ?_)
  obtain ⟨⟨⟨group, hkind⟩, hlevel⟩, houter⟩ := List.forall_mem_cons.1 (hframes ▸ h.frames)
  refine ⟨⟨hlevel.flags_eq, List.forall_mem_cons.2 ⟨?_, hlevel.items_near⟩, hlevel.branches_near⟩, houter⟩
  rw [hkind]
  exact List.forall_mem_singleton.2 h.body_near.sequence

theorem keeps_finish (h : d.Tidy source) : Keeps source (finish d) (Draft.Tidy source) := by
  unfold finish
  dsimp only
  split
  · refine keeps_offset.bind fun _ _ => ?_
    exact Keeps.fail_bind fun _ => trivial
  · split
    · next hflags =>
      refine Keeps.throw_bind (.inr (h.resolve_right fun h => ?_))
      rw [h.level.flags_eq] at hflags
      cases hflags
    · refine keeps_peek.bind fun _ _ => ?_
      split
      · exact Keeps.fail_bind fun _ => trivial
      · split
        · exact Keeps.throw_bind trivial
        · exact Keeps.pure h

theorem keeps_readAll (n : Nat) (h : d.Tidy source) : Keeps source (readAll n d) (Draft.Tidy source) := by
  have hkept {pre : Cursor → Prop} {x : Reading Draft} (hx : Keeps source x (Draft.Tidy source))
      (hpre : ∀ c, pre c → Follows source [] c) :
      Reads source pre x fun d c => Follows source [] c ∧ d.Tidy source :=
    Reads.weaken hx hpre fun _ _ hd => hd
  induction n generalizing d with
  | zero => exact keeps_finish h
  | succ n ih =>
    unfold readAll
    refine keeps_offset.bind fun start _ => reads_peek.bind fun t => ?_
    split
    · exact hkept (keeps_finish h) fun _ hc => hc.2
    · exact hkept ((keeps_endBranch h).bind fun _ hd => ih hd) fun _ hc => hc.2
    · refine hkept ?_ fun _ hc => hc.2
      split
      · exact keeps_finish h
      · next hframes => exact (keeps_endGroup h hframes).bind fun _ hd => ih hd
    · next t _ _ =>
      refine reads_skip_first.bind fun _ => ?_
      split
      · next c _ _ =>
        split
        · exact hkept (ih h) fun _ hc => hc.within
        · split
          · refine hkept (keeps_get.bind fun _ _ => ?_) fun _ hc => hc.within
            exact (keeps_skipLine _).bind fun _ _ => ih h
          · exact (reads_readPlain h start c).bind fun d => Reads.of_fact fun hd => ih hd
      · next c _ _ => exact hkept ((keeps_readEscape h c).bind fun _ hd => ih hd) fun _ hc => hc.within
      · exact hkept (ih h) fun _ hc => hc.within

end Steps

theorem Node.excused_of_fault? {template : Bool} {n : Node} {fault : Fault}
    (h : n.fault? template = some fault) : Excused source ⟨fault, none⟩ := by
  induction n with
  | empty | one | anchor | sameText => cases h
  | seq a b iha ihb | either a b iha ihb | ifCaptured _ a b iha ihb =>
    exact (Option.or_eq_some_iff.1 h).elim iha fun h => ihb h.2
  | group body ih | capture _ body ih | ahead _ body ih | atomic body ih => exact ih h
  | repeated greed least most body ih =>
    unfold Node.fault? at h
    split at h
    · cases h
      trivial
    · exact ih h
  | behind negated body ih =>
    unfold Node.fault? at h
    split at h
    · exact ih h
    · cases h
      trivial

theorem excused_of_read {e : Error} (h : Pattern.read source = .error e) : Excused source e := by
  unfold Pattern.read at h
  cases hstart : Cursor.ofPattern source with
  | error e' =>
    rw [hstart] at h
    cases h
    exact excused_of_checked hstart
  | ok start =>
    rw [hstart] at h
    have hfollows : Follows source [] start := eq_of_checked hstart ▸ List.suffix_rfl
    have hread := keeps_readAll (start.rest.length + 1) (.inr Draft.Plain.init : Draft.Tidy source {})
    cases hr : (readAll (start.rest.length + 1) {}).run start with
    | error e' =>
      have he : e' = e := by simpa [hr, bind, Except.bind] using h
      exact he ▸ hread.fails hfollows hr
    | ok r =>
      obtain ⟨-, htidy⟩ := hread.ends hfollows hr
      simp only [hr, bind, Except.bind] at h
      split at h
      · next hfault =>
        cases h
        exact Node.excused_of_fault? hfault
      · split at h
        · next hfar =>
          cases h
          refine htidy.resolve_right fun hplain => ?_
          rw [hplain.body_near.sequence] at hfar
          cases hfar
        · cases h

end HeaderProbe.Pattern
