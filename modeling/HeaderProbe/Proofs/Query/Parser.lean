import HeaderProbe.Query.Parser
import Mathlib.Data.List.Basic

namespace HeaderProbe

theorem map_bind_congr {ε α β γ δ : Type} {x y : Except ε α} (g : α → δ) {f f' : α → Except ε β}
    {k : β → γ} (hxy : x.map g = y.map g) (h : ∀ a b, g a = g b → (f a).map k = (f' b).map k) :
    (x >>= f).map k = (y >>= f').map k := by
  cases x with
  | error e =>
    cases y with
    | error e' =>
      cases hxy
      rfl
    | ok b => cases hxy
  | ok a =>
    cases y with
    | error e' => cases hxy
    | ok b => exact h a b (Except.ok.inj hxy)

namespace QueryReader

variable {literal other : Option Text}

theorem files_congr (h : literal.isSome = other.isSome) (label name : Text) (words : List Text) :
    (files literal label words).map (List.map FileRef.path?) =
      (files other name words).map (List.map FileRef.path?) := by
  induction words with
  | nil => rfl
  | cons w rest ih =>
    have hrest (f g : FileRef) (hfg : f.path? = g.path?) :
        ((files literal label rest) >>= fun fs => pure (f :: fs)).map (List.map FileRef.path?) =
          ((files other name rest) >>= fun fs => pure (g :: fs)).map (List.map FileRef.path?) := by
      refine map_bind_congr _ ih fun fs gs hfs => ?_
      exact congrArg Except.ok (congrArg₂ List.cons hfg hfs)
    unfold files
    split
    · cases literal <;> cases other
      · rfl
      · cases h
      · cases h
      · exact hrest _ _ rfl
    · exact hrest _ _ rfl

theorem query_congr (h : literal.isSome = other.isSome) (label name : Text) (words : List Text) :
    ((query literal label).run words).map (fun r => r.1.paths) =
      ((query other name).run words).map (fun r => r.1.paths) := by
  unfold query
  simp only [StateT.run_bind]
  refine map_bind_congr id rfl ?_
  rintro define _ rfl
  refine map_bind_congr id rfl ?_
  rintro _ _ rfl
  refine map_bind_congr id rfl ?_
  rintro subject _ rfl
  refine map_bind_congr id rfl ?_
  rintro test _ rfl
  refine map_bind_congr id rfl ?_
  rintro _ _ rfl
  refine map_bind_congr id rfl ?_
  rintro words _ rfl
  have hlift (lit : Option Text) (l : Text) :
      ((liftM (files lit l words.1) : QueryReader (List FileRef)).run words.2).map
          (fun r => r.1.map FileRef.path?) =
        (files lit l words.1).map (List.map FileRef.path?) := by
    cases files lit l words.1 <;> rfl
  refine map_bind_congr _ ((hlift literal label).trans
    ((files_congr h label name words.1).trans (hlift other name).symm)) ?_
  rintro ⟨fs, s⟩ ⟨gs, s'⟩ hfs
  have hpaths : fs.filterMap FileRef.path? = gs.filterMap FileRef.path? := by
    have := congrArg (List.filterMap id) hfs
    simp only [List.filterMap_map] at this
    exact this
  cases fs with
  | nil =>
    cases gs with
    | nil => rfl
    | cons g gs => cases hfs
  | cons f fs =>
    cases gs with
    | nil => cases hfs
    | cons g gs => exact congrArg Except.ok hpaths

end QueryReader

theorem Query.ofLine_congr {literal other : Option Text} (h : literal.isSome = other.isSome)
    (label name line : Text) :
    (Query.ofLine line literal label).toOption.map Query.paths =
      (Query.ofLine line other name).toOption.map Query.paths := by
  unfold Query.ofLine
  split
  · next words _ =>
    have hq := QueryReader.query_congr h label name (dropLeadingGen words)
    simp only [Query.ofWords]
    cases hl : (QueryReader.query literal label).run (dropLeadingGen words) <;>
      cases ho : (QueryReader.query other name).run (dropLeadingGen words) <;>
      simp_all [Except.map, Except.toOption]
  · rfl

end HeaderProbe
