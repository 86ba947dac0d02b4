import HeaderProbe.Pattern.Reader
import Mathlib.Data.List.Basic

namespace HeaderProbe.Pattern

open Reading

variable {α β : Type} {source : Text}

def TooGreat (digits : Text) : Prop :=
  countLimit ≤ Text.natOf 10 digits ∨ Text.mostDigits < digits.length

def HasGreatCount (source : Text) : Prop :=
  ∃ low high : Text, (∀ c ∈ low ++ high, c.isDigit = true) ∧
    ("\x7b".toList ++ low ++ "\x7d".toList <:+: source ∧ TooGreat low ∨
      "\x7b".toList ++ low ++ ",".toList ++ high ++ "\x7d".toList <:+: source ∧
        (TooGreat low ∨ TooGreat high))

def extensionMark : Text := "(?".toList

/-- An error of the syntax, or one that the text of the pattern gives reason for. -/
def Excused (source : Text) (e : Error) : Prop :=
  match e.errorClass with
  | .syntactic => True
  | .overflow => HasGreatCount source
  | .badValue => HasGreatCount source ∨ extensionMark <:+: source
  | .unusable => extensionMark <:+: source

def Follows (source : Text) (ts : List Token) (c : Cursor) : Prop :=
  ts ++ c.rest <:+ tokens false source

theorem flatten_tokens (s : Text) :
    (tokens false s).flatten = s ∧ (tokens true s).flatten = '\\' :: s := by
  induction s with
  | nil => exact ⟨rfl, rfl⟩
  | cons c s ih =>
    obtain ⟨hplain, hescape⟩ := ih
    constructor
    · rw [tokens]
      split
      · next hc => rw [hescape, hc]
      · rw [List.flatten_cons, hplain, List.singleton_append]
    · rw [tokens, List.flatten_cons, hplain]
      rfl

namespace Follows

variable {ts : List Token} {c : Cursor}

theorem flatten_infix_source (h : Follows source ts c) : ts.flatten <:+: source := by
  obtain ⟨before, hbefore⟩ := h
  refine ⟨before.flatten, c.rest.flatten, ?_⟩
  rw [← (flatten_tokens source).1, ← hbefore, List.flatten_append, List.flatten_append, List.append_assoc]

theorem within (h : Follows source ts c) : Follows source [] c :=
  (List.suffix_append ts c.rest).trans h

end Follows

structure Reads (source : Text) (pre : Cursor → Prop) (x : Reading α) (post : α → Cursor → Prop) : Prop where
  fails : ∀ {c e}, pre c → x.run c = .error e → Excused source e
  ends : ∀ {c a c'}, pre c → x.run c = .ok (a, c') → post a c'

namespace Reads

variable {pre pre' : Cursor → Prop} {post : α → Cursor → Prop} {x : Reading α}

theorem weaken {post' : α → Cursor → Prop} (h : Reads source pre x post) (hpre : ∀ c, pre' c → pre c)
    (hpost : ∀ a c, post a c → post' a c) : Reads source pre' x post' where
  fails hc := h.fails (hpre _ hc)
  ends hc hx := hpost _ _ (h.ends (hpre _ hc) hx)

theorem bind {f : α → Reading β} {after : β → Cursor → Prop} (hx : Reads source pre x post)
    (hf : ∀ a, Reads source (post a) (f a) after) : Reads source pre (x >>= f) after where
  fails {c e} hc h := by
    rw [StateT.run_bind] at h
    cases hr : x.run c with
    | error e' =>
      rw [hr] at h
      cases h
      exact hx.fails hc hr
    | ok r =>
      rw [hr] at h
      exact (hf r.1).fails (hx.ends hc hr) h
  ends {c b c'} hc h := by
    rw [StateT.run_bind] at h
    cases hr : x.run c with
    | error e' =>
      rw [hr] at h
      cases h
    | ok r =>
      rw [hr] at h
      exact (hf r.1).ends (hx.ends hc hr) h

theorem pure {a : α} (h : ∀ c, pre c → post a c) : Reads source pre (Pure.pure a : Reading α) post where
  fails _ hr := nomatch hr
  ends hc hr := by
    cases hr
    exact h _ hc

theorem throw {e : Error} (h : ∀ c, pre c → Excused source e) :
    Reads source pre (MonadExcept.throw e : Reading α) post where
  fails hc hr := by
    cases hr
    exact h _ hc
  ends _ hr := nomatch hr

theorem fail {fault : Fault} {back : Nat} (h : ∀ place, Excused source ⟨fault, place⟩) :
    Reads source pre (Reading.fail fault back : Reading α) post where
  fails _ hr := by
    cases hr
    exact h _
  ends _ hr := nomatch hr

theorem get : Reads source pre (MonadState.get : Reading Cursor) fun a c => a = c ∧ pre c where
  fails _ hr := nomatch hr
  ends hc hr := by
    cases hr
    exact ⟨rfl, hc⟩

theorem set {here : Cursor} :
    Reads source pre (MonadStateOf.set here : Reading PUnit) fun _ c => c = here where
  fails _ hr := nomatch hr
  ends _ hr := by
    cases hr
    rfl

theorem discard (h : Reads source pre x post) :
    Reads source pre (Functor.discard x) fun _ c => ∃ a, post a c where
  fails {c e} hc hr := by
    change (Functor.map (fun _ => ()) x).run c = _ at hr
    rw [StateT.run_map] at hr
    cases hx : x.run c with
    | error e' =>
      rw [hx] at hr
      cases hr
      exact h.fails hc hx
    | ok r =>
      rw [hx] at hr
      cases hr
  ends {c a c'} hc hr := by
    change (Functor.map (fun _ => ()) x).run c = _ at hr
    rw [StateT.run_map] at hr
    cases hx : x.run c with
    | error e' =>
      rw [hx] at hr
      cases hr
    | ok r =>
      rw [hx] at hr
      cases hr
      exact ⟨r.1, h.ends hc hx⟩

theorem of_fact {P : Prop} (h : P → Reads source pre x post) :
    Reads source (fun c => pre c ∧ P) x post where
  fails hc := (h hc.2).fails hc.1
  ends hc := (h hc.2).ends hc.1

end Reads

def Keeps (source : Text) (x : Reading α) (Q : α → Prop) : Prop :=
  Reads source (Follows source []) x fun a c => Follows source [] c ∧ Q a

namespace Keeps

variable {Q : α → Prop} {x : Reading α}

theorem bind {f : α → Reading β} {R : β → Prop} (hx : Keeps source x Q)
    (hf : ∀ a, Q a → Keeps source (f a) R) : Keeps source (x >>= f) R :=
  Reads.bind hx fun a => Reads.of_fact (hf a)

theorem pure {a : α} (h : Q a) : Keeps source (Pure.pure a : Reading α) Q :=
  Reads.pure fun _ hc => ⟨hc, h⟩

theorem fail {fault : Fault} {back : Nat} (h : ∀ place, Excused source ⟨fault, place⟩) :
    Keeps source (Reading.fail fault back : Reading α) Q :=
  Reads.fail h

theorem fail_bind {fault : Fault} {back : Nat} {f : β → Reading α}
    (h : ∀ place, Excused source ⟨fault, place⟩) : Keeps source (Reading.fail fault back >>= f) Q :=
  Keeps.bind (Q := fun _ => False) (Keeps.fail h) fun _ hf => hf.elim

theorem throw_bind {e : Error} {f : β → Reading α} (h : Excused source e) :
    Keeps source (MonadExcept.throw e >>= f) Q :=
  Keeps.bind (Q := fun _ => False) (Reads.throw fun _ _ => h) fun _ hf => hf.elim

theorem weaken {R : α → Prop} (h : Keeps source x Q) (hQ : ∀ a, Q a → R a) : Keeps source x R :=
  Reads.weaken h (fun _ hc => hc) fun _ _ hc => ⟨hc.1, hQ _ hc.2⟩

end Keeps

section Tokens

variable {ts : List Token} {c c' : Cursor} {t : Option Token}

theorem excused_of_checked {e : Error} (h : c.checked = .error e) : Excused source e := by
  unfold Cursor.checked at h
  split at h
  · cases h
    trivial
  · cases h

theorem eq_of_checked (h : c.checked = .ok c') : c' = c := by
  unfold Cursor.checked at h
  split at h
  · cases h
  · cases h
    rfl

theorem excused_of_next {e : Error} (h : c.next = .error e) : Excused source e := by
  unfold Cursor.next at h
  split at h
  · cases h
  · next u rest _ =>
    cases hr : Cursor.checked ⟨rest, c.offset + u.length⟩ with
    | ok c' =>
      rw [hr] at h
      cases h
    | error e' =>
      rw [hr] at h
      cases h
      exact excused_of_checked hr

theorem rest_of_next (h : c.next = .ok (t, c')) : t = c.first ∧ c.rest = t.toList ++ c'.rest := by
  unfold Cursor.next at h
  split at h
  · next hrest =>
    cases h
    exact ⟨by rw [Cursor.first, hrest]; rfl, rfl⟩
  · next u rest hrest =>
    cases hr : Cursor.checked ⟨rest, c.offset + u.length⟩ with
    | error e =>
      rw [hr] at h
      cases h
    | ok c₁ =>
      rw [hr] at h
      cases h
      obtain rfl := eq_of_checked hr
      exact ⟨by rw [Cursor.first, hrest]; rfl, hrest⟩

theorem run_take (c : Cursor) : take.run c = c.next := by
  unfold take
  cases h : c.next with
  | error e => simp [h]
  | ok r => simp [h]

theorem reads_take :
    Reads source (Follows source ts) take fun t c => Follows source (ts ++ t.toList) c where
  fails _ h := excused_of_next (run_take _ ▸ h)
  ends hc h := by
    rw [run_take] at h
    unfold Follows at hc ⊢
    rwa [List.append_assoc, ← (rest_of_next h).2]

theorem reads_peek :
    Reads source (Follows source ts) peek fun t c => t = c.first ∧ Follows source ts c where
  fails _ h := nomatch h
  ends hc h := by
    cases h
    exact ⟨rfl, hc⟩

theorem reads_take_first {u : Token} :
    Reads source (fun c => some u = c.first ∧ Follows source ts c) take fun t c =>
      t = some u ∧ Follows source (ts ++ [u]) c where
  fails _ h := excused_of_next (run_take _ ▸ h)
  ends hc h := by
    have hfollows := reads_take.ends hc.2 h
    rw [run_take] at h
    obtain rfl := (rest_of_next h).1
    rw [← hc.1] at hfollows ⊢
    exact ⟨rfl, hfollows⟩

theorem reads_skip_first {u : Token} :
    Reads source (fun c => some u = c.first ∧ Follows source ts c) (discard take) fun _ c =>
      Follows source (ts ++ [u]) c :=
  reads_take_first.discard.weaken (fun _ hc => hc) fun _ _ hc => hc.elim fun _ h => h.2

theorem reads_accept (u : Token) :
    Reads source (Follows source ts) (accept u) fun b c =>
      Follows source (ts ++ if b then [u] else []) c := by
  unfold accept
  refine reads_peek.bind fun t => ?_
  split
  · next ht =>
    subst ht
    exact reads_skip_first.bind fun _ => Reads.pure fun _ hc => hc
  · exact Reads.pure fun _ hc => by simpa using hc.2

theorem reads_takeWhile (p : Char → Bool) (n : Nat) :
    Reads source (Follows source ts) (takeWhile p n) fun ds c =>
      Follows source (ts ++ ds.map fun d => [d]) c ∧ ∀ d ∈ ds, p d = true := by
  induction n generalizing ts with
  | zero => exact Reads.pure fun _ hc => by simpa using hc
  | succ n ih =>
    unfold takeWhile
    refine reads_peek.bind fun t => ?_
    split
    · split
      · next d hd =>
        refine reads_skip_first.bind fun _ => ih.bind fun ds => Reads.pure fun c hc => ?_
        refine ⟨?_, List.forall_mem_cons.2 ⟨hd, hc.2⟩⟩
        simpa using hc.1
      · exact Reads.pure fun _ hc => by simpa using hc.2
    · exact Reads.pure fun _ hc => by simpa using hc.2

theorem reads_takeAll (p : Char → Bool) :
    Reads source (Follows source ts) (takeAll p) fun ds c =>
      Follows source (ts ++ ds.map fun d => [d]) c ∧ ∀ d ∈ ds, p d = true := by
  unfold takeAll
  refine Reads.get.bind fun here => ?_
  exact (reads_takeWhile p _).weaken (fun _ hc => hc.2) fun _ _ hc => hc

theorem keeps_get : Keeps source get fun _ => True :=
  Reads.get.weaken (fun _ hc => hc) fun _ _ hc => ⟨hc.2, trivial⟩

theorem keeps_offset : Keeps source offset fun _ => True :=
  keeps_get.bind fun _ _ => Keeps.pure trivial

theorem keeps_peek : Keeps source peek fun _ => True :=
  keeps_get.bind fun _ _ => Keeps.pure trivial

theorem keeps_take : Keeps source take fun _ => True :=
  reads_take.weaken (fun _ hc => hc) fun _ _ hc => ⟨hc.within, trivial⟩

theorem keeps_accept (u : Token) : Keeps source (accept u) fun _ => True :=
  (reads_accept u).weaken (fun _ hc => hc) fun _ _ hc => ⟨hc.within, trivial⟩

theorem keeps_takeWhile (p : Char → Bool) (n : Nat) : Keeps source (takeWhile p n) fun _ => True :=
  (reads_takeWhile p n).weaken (fun _ hc => hc) fun _ _ hc => ⟨hc.1.within, trivial⟩

theorem keeps_takeUntil_go (terminator : Char) (what : Text) (n : Nat) (read : Text) :
    Keeps source (takeUntil.go terminator what n read) fun _ => True := by
  have hend (read : Text) : Keeps source (takeUntil.go terminator what 0 read) fun _ => True := by
    unfold takeUntil.go
    split
    · exact Keeps.fail fun _ => trivial
    · exact Keeps.fail fun _ => trivial
  induction n generalizing read with
  | zero => exact hend read
  | succ n ih =>
    unfold takeUntil.go
    refine keeps_take.bind fun t _ => ?_
    split
    · exact hend read
    · split
      · split
        · exact Keeps.fail fun _ => trivial
        · exact Keeps.pure trivial
      · exact ih _

theorem keeps_takeUntil (terminator : Char) (what : Text) :
    Keeps source (takeUntil terminator what) fun _ => True :=
  keeps_get.bind fun _ _ => keeps_takeUntil_go ..

end Tokens

end HeaderProbe.Pattern
