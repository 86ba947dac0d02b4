import HeaderProbe.Proofs.Query.Resolve
import HeaderProbe.Proofs.Text.LineEnd
import HeaderProbe.Proofs.Tree.Entry
import HeaderProbe.Tree.Draft

namespace HeaderProbe

def Entry.withReturns : Entry → Entry
  | .file content => .file (HeaderProbe.withReturns content)
  | .directory => .directory

def Tree.withReturns (t : Tree) (places : List Location) : Tree where
  entries := t.entries.map fun (l, e) => (l, if l ∈ places then e.withReturns else e)
  current := t.current

def Returned (e f : Option Entry) : Prop :=
  e = f ∨ ∃ content, 13 ∉ content ∧
    e = some (.file content) ∧ f = some (.file (withReturns content))

namespace Returned

variable {e f : Option Entry}

theorem isNone (h : Returned e f) : e.isNone = f.isNone := by
  obtain rfl | ⟨content, -, rfl, rfl⟩ := h <;> rfl

theorem directory_iff (h : Returned e f) : e = some .directory ↔ f = some .directory := by
  obtain rfl | ⟨content, -, rfl, rfl⟩ := h <;> simp

end Returned

namespace Tree

variable {t u : Tree} {l m : Location} {path : Text}

theorem entry?_withReturns (t : Tree) (places : List Location) (l : Location) :
    Tree.entry? (t.withReturns places) l =
      (t.entry? l).map fun e => if l ∈ places then e.withReturns else e := by
  unfold entry?
  split
  · split <;> rfl
  · simp only [Tree.withReturns]
    induction t.entries with
    | nil => rfl
    | cons x es ih =>
      obtain ⟨k, e⟩ := x
      simp only [List.map_cons, List.lookup_cons, ih]
      cases hk : l == k with
      | true =>
        obtain rfl := eq_of_beq hk
        rfl
      | false => rfl

theorem names_withReturns (t : Tree) (places : List Location) (l : Location) :
    (t.withReturns places).names l = t.names l := by
  rw [names, names, Tree.withReturns, List.filterMap_map]
  rfl

structure DifferInReturns (t u : Tree) : Prop where
  current : t.current = u.current
  entry? : ∀ l, Returned (t.entry? l) (u.entry? l)

theorem differInReturns_withReturns {places : List Location}
    (h : ∀ l ∈ places, ∀ content, t.entry? l = some (.file content) → 13 ∉ content) :
    DifferInReturns t (t.withReturns places) := by
  refine ⟨rfl, fun l => ?_⟩
  rw [entry?_withReturns]
  cases he : t.entry? l with
  | none => exact .inl rfl
  | some e =>
    rw [Option.map_some]
    split
    · next hl =>
      cases e with
      | directory => exact .inl rfl
      | file content => exact .inr ⟨content, h l hl content he, rfl, rfl⟩
    · exact .inl rfl

namespace DifferInReturns

theorem base (h : DifferInReturns t u) (path : Text) : t.base path = u.base path := by
  rw [Tree.base, Tree.base, h.current]

theorem directory_iff (h : DifferInReturns t u) (l : Location) :
    t.entry? l = some .directory ↔ u.entry? l = some .directory :=
  (h.entry? l).directory_iff

theorem walk (h : DifferInReturns t u) (l : Location) (ps : List Text) :
    t.walk l ps = u.walk l ps := by
  induction ps generalizing l with
  | nil => rfl
  | cons p ps ih => simp only [Tree.walk, ne_eq, h.directory_iff, (h.entry? _).isNone, ih]

theorem locate (h : DifferInReturns t u) (path : Text) : t.locate path = u.locate path := by
  rw [Tree.locate, Tree.locate, h.base, h.walk]

theorem isTooLong (h : DifferInReturns t u) (path : Text) : t.isTooLong path = u.isTooLong path := by
  rw [Tree.isTooLong, Tree.isTooLong, h.locate]

theorem directoryAt? (h : DifferInReturns t u) (path : Text) :
    t.directoryAt? path = u.directoryAt? path := by
  simp only [Tree.directoryAt?, h.locate, h.directory_iff]

theorem slot (h : DifferInReturns t u) (path : Text) : t.slot path = u.slot path := by
  simp only [Tree.slot, h.base, h.walk, ne_eq, h.directory_iff]

theorem bytes? (h : DifferInReturns t u) (path : Text) :
    t.bytes? path = u.bytes? path ∨
      ∃ content, 13 ∉ content ∧ t.bytes? path = some content ∧
        u.bytes? path = some (HeaderProbe.withReturns content) := by
  simp only [Tree.bytes?, Tree.find?, h.locate]
  cases u.locate path with
  | error fault => exact .inl rfl
  | ok l =>
    dsimp only
    obtain heq | ⟨content, hcontent, ht, hu⟩ := h.entry? l
    · rw [heq]
      exact .inl rfl
    · rw [ht, hu]
      exact .inr ⟨content, hcontent, rfl, rfl⟩

theorem text? (h : DifferInReturns t u) (path : Text) : t.text? path = u.text? path := by
  rw [Tree.text?, Tree.text?]
  obtain heq | ⟨content, hcontent, ht, hu⟩ := h.bytes? path
  · rw [heq]
  · rw [ht, hu, Option.map_some, Option.map_some, Utf8.unifyLineEnds_decode_withReturns hcontent]

theorem hasContent (h : DifferInReturns t u) (root path : Text) :
    t.hasContent root path = u.hasContent root path := by
  rw [Tree.hasContent, Tree.hasContent]
  obtain heq | ⟨content, -, ht, hu⟩ := h.bytes? (Path.join root path)
  · rw [heq]
  · have hempty : (HeaderProbe.withReturns content).isEmpty = content.isEmpty := by
      rw [Bool.eq_iff_iff, List.isEmpty_iff, List.isEmpty_iff, withReturns_eq_nil_iff]
    rw [ht, hu, Option.any_some, Option.any_some, hempty]

theorem readAlike (h : DifferInReturns t u) (root : Text) (files : List Text) :
    ReadAlike root files t u :=
  fun p _ => ⟨fun _ => h.text? _, h.hasContent root p⟩

theorem unlink (h : DifferInReturns t u) (l : Location) :
    DifferInReturns (t.unlink l) (u.unlink l) := by
  refine ⟨h.current, fun m => ?_⟩
  by_cases hm : m = l
  · subst hm
    by_cases hnil : m = []
    · subst hnil
      exact .inl rfl
    · exact .inl (by rw [entry?_unlink_self hnil, entry?_unlink_self hnil])
  · rw [entry?_unlink_of_ne hm, entry?_unlink_of_ne hm]
    exact h.entry? m

theorem set (h : DifferInReturns t u) (l : Location) {e f : Entry}
    (hef : Returned (some e) (some f)) : DifferInReturns (t.set l e) (u.set l f) := by
  refine ⟨h.current, fun m => ?_⟩
  by_cases hm : m = l
  · subst hm
    by_cases hnil : m = []
    · subst hnil
      exact .inl rfl
    · rw [entry?_set_self hnil, entry?_set_self hnil]
      exact hef
  · rw [entry?_set_of_ne hm, entry?_set_of_ne hm]
    exact h.entry? m

theorem move (h : DifferInReturns t u) (l m : Location) :
    DifferInReturns (t.move l m) (u.move l m) := by
  have hl := h.entry? l
  unfold Tree.move
  cases ht : t.entry? l with
  | none =>
    have hu : u.entry? l = none := by rw [← Option.isNone_iff_eq_none, ← hl.isNone, ht]; rfl
    rw [hu]
    exact h
  | some e =>
    cases hu : u.entry? l with
    | none => simp [ht, hu, Returned] at hl
    | some f =>
      rw [ht, hu] at hl
      exact (h.unlink l).set m hl

theorem rename (h : DifferInReturns t u) (l : Location) (path : Text) :
    (∃ fault, t.rename l path = .error fault ∧ u.rename l path = .error fault) ∨
      ∃ t' u', t.rename l path = .ok t' ∧ u.rename l path = .ok u' ∧ DifferInReturns t' u' := by
  unfold Tree.rename
  rw [h.directoryAt?, h.slot]
  cases u.directoryAt? path with
  | some directory =>
    dsimp only
    split
    · exact .inl ⟨_, rfl, rfl⟩
    · rw [← Option.not_isNone, ← Option.not_isNone, (h.entry? _).isNone]
      split
      · exact .inl ⟨_, rfl, rfl⟩
      · exact .inr ⟨_, _, rfl, rfl, h.move _ _⟩
  | none =>
    cases u.slot path with
    | error fault => exact .inl ⟨_, rfl, rfl⟩
    | ok m => exact .inr ⟨_, _, rfl, rfl, h.move l m⟩

theorem draftIn (h : DifferInReturns t u) (directory : Location) (names : List Text) :
    (t.draftIn directory names).map Draft.location =
      (u.draftIn directory names).map Draft.location := by
  induction names with
  | nil => rfl
  | cons name names ih =>
    have hvacant : t.entry? (directory ++ [name]) = none ↔ u.entry? (directory ++ [name]) = none := by
      rw [← Option.isNone_iff_eq_none, ← Option.isNone_iff_eq_none, (h.entry? _).isNone]
    simp only [Tree.draftIn, h.walk, ne_eq, h.directory_iff]
    split
    · rfl
    · split
      · rfl
      · split
        · rfl
        · split
          · rfl
          · by_cases hv : t.entry? (directory ++ [name]) = none
            · rw [dif_pos hv, dif_pos (hvacant.1 hv)]
              rfl
            · rw [dif_neg hv, dif_neg (mt hvacant.2 hv)]
              exact ih

theorem draft (h : DifferInReturns t u) (path : Text) (marks : List Text) :
    (t.draft path marks).map Draft.location = (u.draft path marks).map Draft.location := by
  rw [Tree.draft, Tree.draft, h.base]
  exact h.draftIn _ _

end DifferInReturns

end Tree

end HeaderProbe
