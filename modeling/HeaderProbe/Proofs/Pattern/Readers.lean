import HeaderProbe.Proofs.Pattern.Reading

namespace HeaderProbe.Pattern

open Reading

variable {source : Text}

section Characters

theorem keeps_hexEscape (letter : Char) (width : Nat) :
    Keeps source (hexEscape letter width) fun _ => True := by
  unfold hexEscape
  refine (keeps_takeWhile _ _).bind fun digits _ => ?_
  dsimp only
  split
  · exact Keeps.fail fun _ => trivial
  · split
    · exact Keeps.fail fun _ => trivial
    · exact Keeps.pure trivial

theorem keeps_namedEscape : Keeps source namedEscape fun _ => True := by
  unfold namedEscape
  refine (keeps_accept _).bind fun b _ => ?_
  split
  · exact Keeps.fail fun _ => trivial
  · refine (keeps_takeUntil _ _).bind fun name _ => ?_
    split
    · exact Keeps.pure trivial
    · exact Keeps.fail fun _ => trivial

theorem keeps_codeEscape {c : Char} {read : Reading Nat} (h : codeEscape c = some read) :
    Keeps source read fun _ => True := by
  unfold codeEscape at h
  split at h
  · cases h
    exact keeps_hexEscape ..
  · cases h
    exact keeps_hexEscape ..
  · cases h
    exact keeps_hexEscape ..
  · cases h
    exact keeps_namedEscape
  · cases h

theorem keeps_plainEscape (c : Char) : Keeps source (plainEscape c) fun _ => True := by
  unfold plainEscape
  split
  · exact Keeps.fail fun _ => trivial
  · exact Keeps.pure trivial

theorem keeps_octalEscape (digits : Text) : Keeps source (octalEscape digits) fun _ => True := by
  unfold octalEscape
  dsimp only
  split
  · exact Keeps.fail fun _ => trivial
  · exact Keeps.pure trivial

theorem keeps_setEscape (flags : Flags) (c : Char) : Keeps source (setEscape flags c) fun _ => True := by
  unfold setEscape
  split
  · exact Keeps.pure trivial
  · split
    · exact Keeps.pure trivial
    · split
      · exact Keeps.pure trivial
      · split
        · next read hread =>
          exact (keeps_codeEscape hread).bind fun _ _ => Keeps.pure trivial
        · split
          · refine (keeps_takeWhile _ _).bind fun _ _ => ?_
            exact (keeps_octalEscape _).bind fun _ _ => Keeps.pure trivial
          · exact (keeps_plainEscape c).bind fun _ _ => Keeps.pure trivial

theorem keeps_readMember (flags : Flags) (t : Token) :
    Keeps source (readMember flags t) fun _ => True := by
  unfold readMember
  split
  · exact keeps_setEscape ..
  · exact Keeps.pure trivial

theorem keeps_readMembers (flags : Flags) (start n : Nat) (read : List Member) :
    Keeps source (readMembers flags start n read) fun _ => True := by
  have hunterminated : Keeps source (readMembers.unterminated start) fun _ => True :=
    keeps_offset.bind fun _ _ => Keeps.fail fun _ => trivial
  induction n generalizing read with
  | zero => exact hunterminated
  | succ n ih =>
    unfold readMembers
    refine keeps_take.bind fun first _ => ?_
    split
    · next first =>
      split
      · exact Keeps.pure trivial
      · refine (keeps_readMember ..).bind fun low _ => (keeps_accept _).bind fun dashed _ => ?_
        split
        · exact ih _
        · refine keeps_take.bind fun last _ => ?_
          split
          · next last =>
            split
            · exact Keeps.pure trivial
            · refine (keeps_readMember ..).bind fun high _ => ?_
              dsimp only
              split
              · split
                · exact Keeps.fail fun _ => trivial
                · exact ih _
              · exact Keeps.fail fun _ => trivial
          · exact hunterminated
    · exact hunterminated

end Characters

section Flags

theorem keeps_badFlag {α : Type} (t : Token) (what : Text) (Q : α → Prop) :
    Keeps source (badFlag t what) Q := by
  unfold badFlag
  split
  · exact Keeps.fail fun _ => trivial
  · exact Keeps.fail fun _ => trivial

theorem keeps_readAdded (n : Nat) (flags : Flags) (t : Token) :
    Keeps source (readAdded n flags t) fun _ => True := by
  induction n generalizing flags t with
  | zero => exact Keeps.pure trivial
  | succ n ih =>
    unfold readAdded
    split
    · next letter _ =>
      split
      · exact Keeps.fail fun _ => trivial
      · dsimp only
        split
        · exact Keeps.fail fun _ => trivial
        · refine keeps_take.bind fun t _ => ?_
          split
          · split
            · exact Keeps.pure trivial
            · exact ih ..
          · exact Keeps.fail fun _ => trivial
    · exact keeps_badFlag ..

theorem keeps_readRemoved (n : Nat) (flags : Flags) (t : Token) (what : Text) :
    Keeps source (readRemoved n flags t what) fun _ => True := by
  induction n generalizing flags t what with
  | zero => exact Keeps.pure trivial
  | succ n ih =>
    unfold readRemoved
    split
    · next letter _ =>
      split
      · exact Keeps.fail fun _ => trivial
      · dsimp only
        refine keeps_take.bind fun t _ => ?_
        split
        · split
          · exact Keeps.pure trivial
          · exact ih ..
        · exact Keeps.fail fun _ => trivial
    · exact keeps_badFlag ..

theorem keeps_readFlags (t : Token) : Keeps source (readFlags t) fun _ => True := by
  have hchecked (added removed : Flags) : Keeps source (do
      if removed.template then fail .globalFlagTurnedOff 1
      if added.meet removed ≠ {} then fail .flagOnAndOff 1
      return (added, some removed)) fun _ => True := by
    dsimp only
    split
    · exact Keeps.fail fun _ => trivial
    · split
      · exact Keeps.fail fun _ => trivial
      · exact Keeps.pure trivial
  unfold readFlags
  refine keeps_get.bind fun here _ => ?_
  extract_lets fuel removed
  have hremoved (r : Flags × Token) : Keeps source (removed r) fun _ => True := by
    dsimp only [removed]
    split
    · exact Keeps.pure trivial
    · split
      · exact Keeps.fail fun _ => trivial
      · split
        · refine keeps_take.bind fun t _ => ?_
          split
          · exact (keeps_readRemoved ..).bind fun removed _ => hchecked _ removed
          · exact Keeps.fail_bind fun _ => trivial
        · exact Keeps.bind (Q := fun _ => True) (Keeps.pure trivial) fun removed _ => hchecked _ removed
  split
  · exact Keeps.bind (Q := fun _ => True) (Keeps.pure trivial) fun r _ => hremoved r
  · exact (keeps_readAdded ..).bind fun r _ => hremoved r

end Flags

section Groups

theorem keeps_readName (terminator : Char) : Keeps source (readName terminator) fun _ => True := by
  unfold readName
  refine (keeps_takeUntil _ _).bind fun name _ => ?_
  split
  · exact Keeps.fail fun _ => trivial
  · exact Keeps.pure trivial

theorem keeps_namedGroup (d : Draft) (name : Text) : Keeps source (namedGroup d name) fun _ => True := by
  unfold namedGroup
  split
  · exact Keeps.pure trivial
  · exact Keeps.fail fun _ => trivial

theorem keeps_checkBehind (d : Draft) (group : Nat) :
    Keeps source (checkBehind d group) fun _ => True := by
  unfold checkBehind
  split
  · dsimp only
    split
    · exact Keeps.fail_bind fun _ => trivial
    · split
      · exact Keeps.fail fun _ => trivial
      · exact Keeps.pure trivial
  · exact Keeps.pure trivial

theorem keeps_skipComment (start n : Nat) : Keeps source (skipComment start n) fun _ => True := by
  have hunterminated : Keeps source (skipComment.unterminated start) fun _ => True :=
    keeps_offset.bind fun _ _ => Keeps.fail fun _ => trivial
  induction n with
  | zero => exact hunterminated
  | succ n ih =>
    unfold skipComment
    refine keeps_take.bind fun t _ => ?_
    split
    · split
      · exact ih
      · exact Keeps.pure trivial
    · exact hunterminated

theorem keeps_skipLine (n : Nat) : Keeps source (skipLine n) fun _ => True := by
  induction n with
  | zero => exact Keeps.pure trivial
  | succ n ih =>
    unfold skipLine
    refine keeps_take.bind fun t _ => ?_
    split
    · exact ih
    · exact Keeps.pure trivial

theorem keeps_readCondition (d : Draft) (start : Nat) :
    Keeps source (readCondition d start) fun _ => True := by
  have hopened (r : Nat × List (Nat × Nat)) : Keeps source (do
      checkBehind d r.1
      return { d with conditions := r.2 }.openGroup (.ifCaptured r.1) start) fun _ => True :=
    (keeps_checkBehind ..).bind fun _ _ => Keeps.pure trivial
  unfold readCondition
  refine (keeps_takeUntil _ _).bind fun name _ => ?_
  dsimp only
  split
  · exact (keeps_namedGroup ..).bind fun group _ => hopened (group, _)
  · split
    · exact Keeps.fail fun _ => trivial
    · next group _ _ =>
      split
      · exact Keeps.fail fun _ => trivial
      · split
        · exact hopened (_, _)
        · exact keeps_offset.bind fun _ _ => hopened (_, _)
    · exact Keeps.fail fun _ => trivial

end Groups

section Bounds

variable {digits low high : Text} {ts : List Token}

theorem reads_readCount {pre : Cursor → Prop} (h : TooGreat digits → HasGreatCount source) :
    Reads source pre (readCount digits) fun _ c => pre c := by
  unfold readCount
  split
  · exact Reads.pure fun _ hc => hc
  · split
    · next hmany => exact Reads.throw fun _ _ => .inl (h (.inr hmany))
    · dsimp only
      split
      · next hgreat => exact Reads.throw fun _ _ => h (.inl hgreat)
      · exact Reads.pure fun _ hc => hc

theorem flatten_map_singleton (s : Text) : (s.map fun c => [c]).flatten = s :=
  List.flatMap_singleton' s

theorem reads_closeBounds {here : Cursor} (hhere : Follows source [] here)
    (h : (ts ++ [['\x7d']]).flatten <:+: source → TooGreat low ∨ TooGreat high → HasGreatCount source) :
    Reads source (Follows source ts) (do
      if !(← accept ['\x7d']) then
        set here
        return none
      let least ← readCount low
      let most ← readCount high
      if most.any (· < least.getD 0) then fail .leastAboveMost ((← offset) - here.offset)
      return some (least.getD 0, most)) fun _ c => Follows source [] c := by
  refine (reads_accept _).bind fun closed => ?_
  cases closed with
  | false => exact Reads.bind Reads.set fun _ => Reads.pure fun c hc => hc ▸ hhere
  | true =>
    have hgreat (c : Cursor) (hc : Follows source (ts ++ [['\x7d']]) c) :
        Follows source [] c ∧ (TooGreat low ∨ TooGreat high → HasGreatCount source) :=
      ⟨hc.within, h hc.flatten_infix_source⟩
    refine Reads.weaken (Reads.of_fact fun hgreat => ?_) hgreat fun _ _ hc => hc
    refine (reads_readCount fun hl => hgreat (.inl hl)).bind fun least => ?_
    refine (reads_readCount fun hh => hgreat (.inr hh)).bind fun most => ?_
    dsimp only
    split
    · have hfails : Keeps source (do
          fail .leastAboveMost ((← offset) - here.offset)
          return some (least.getD 0, most)) fun _ => True :=
        keeps_offset.bind fun _ _ => Keeps.fail_bind fun _ => trivial
      exact Reads.weaken hfails (fun _ hc => hc) fun _ _ hc => hc.1
    · exact Reads.pure fun _ hc => hc

theorem reads_readBounds :
    Reads source (Follows source [['\x7b']]) readBounds fun _ c => Follows source [] c := by
  unfold readBounds
  refine Reads.get.bind fun here => ?_
  refine Reads.weaken (Reads.of_fact fun hhere => ?_)
    (fun c hc => ⟨hc.2, (hc.1 ▸ hc.2 : Follows source _ here).within⟩) fun _ _ hc => hc
  refine reads_peek.bind fun next => ?_
  split
  · exact Reads.pure fun _ hc => hc.2.within
  refine Reads.bind ((reads_takeAll _).weaken (fun _ hc => hc.2) fun _ _ hc => hc) fun low => ?_
  refine Reads.of_fact fun hlow => (reads_accept _).bind fun comma => ?_
  cases comma with
  | true =>
    refine (reads_takeAll _).bind fun high => Reads.of_fact fun hhigh => ?_
    refine reads_closeBounds hhere fun hheld hgreat => ⟨low, high, ?_, .inr ⟨?_, hgreat⟩⟩
    · exact fun c hc => (List.mem_append.1 hc).elim (hlow c) (hhigh c)
    · simpa [flatten_map_singleton] using hheld
  | false =>
    refine reads_closeBounds hhere fun hheld hgreat => ⟨low, [], ?_, .inl ⟨?_, or_self_iff.1 hgreat⟩⟩
    · simpa using hlow
    · simpa [flatten_map_singleton] using hheld

end Bounds

end HeaderProbe.Pattern
