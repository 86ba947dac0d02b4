import HeaderProbe.Proofs.Tree.Walk
import HeaderProbe.Run

namespace HeaderProbe

theorem Path.leaf?_eq_some_iff {path name : Text} :
    Path.leaf? path = some name ↔
      Path.steps path = (Path.steps path).dropLast ++ [name] ∧ name ≠ ['.', '.'] := by
  rw [Path.leaf?, Option.filter_eq_some_iff, decide_eq_true_iff]
  refine and_congr_left fun _ => ?_
  constructor
  · intro h
    exact (List.dropLast_append_getLast? name h).symm
  · intro h
    rw [h]
    simp

namespace Tree

variable {t : Tree} {l m : Location} {path : Text} {content : List UInt8}

structure Receives (t : Tree) (path : Text) (directory : Location) (name : Text) : Prop where
  plain : ¬ path.contains '\x00'
  short : ¬ (Utf8.encode (Path.plain path)).length > longestPath
  leaf : Path.leaf? path = some name
  shortName : ¬ (Utf8.encode name).length > longestName
  walk : t.walk (t.base path) (Path.steps path).dropLast = .ok directory
  isDirectory : t.entry? directory = some .directory

theorem exists_of_slot (h : t.slot path = .ok l) :
    ∃ directory name, Receives t path directory name ∧ l = directory ++ [name] := by
  unfold slot at h
  split at h
  · cases h
  · next hplain =>
    split at h
    · cases h
    · next hshort =>
      split at h
      · cases h
      · cases h
      · next name directory hleaf hwalk =>
        split at h
        · cases h
        · next hdir =>
          split at h
          · cases h
          · next hname =>
            cases h
            exact ⟨directory, name, ⟨hplain, hshort, hleaf, hname, hwalk, not_not.1 hdir⟩, rfl⟩

namespace Receives

variable {directory : Location} {name : Text}

theorem slot (h : Receives t path directory name) : t.slot path = .ok (directory ++ [name]) := by
  rw [Tree.slot, if_neg h.plain, if_neg h.short, h.leaf, h.walk]
  simp [h.isDirectory, h.shortName]

theorem set (h : Receives t path directory name) (hm : t.entry? m ≠ some .directory)
    (content : List UInt8) : Receives (t.set m (.file content)) path directory name :=
  { h with
    walk := walk_set_of_ok hm h.walk
    isDirectory := by
      rw [entry?_set_of_ne, h.isDirectory]
      rintro rfl
      exact hm h.isDirectory }

theorem locate (h : Receives t path directory name) :
    t.locate path =
      if (t.entry? (directory ++ [name])).isNone then .error .missing
      else .ok (directory ++ [name]) := by
  obtain ⟨hsteps, hup⟩ := Path.leaf?_eq_some_iff.1 h.leaf
  rw [Tree.locate, if_neg h.plain, if_neg h.short, hsteps, walk_append, h.walk]
  simp only [Except.bind, Tree.walk, h.isDirectory, ne_eq, not_true_eq_false, if_false, hup,
    h.shortName]

theorem directoryAt? (h : Receives t path directory name)
    (hfile : t.entry? (directory ++ [name]) ≠ some .directory) : t.directoryAt? path = none := by
  rw [Tree.directoryAt?, h.locate]
  split
  · next hl =>
    split at hl
    · cases hl
    · cases hl
      exact if_neg hfile
  · rfl

theorem rename (h : Receives t path directory name)
    (hfile : t.entry? (directory ++ [name]) ≠ some .directory) :
    t.rename l path = .ok (t.move l (directory ++ [name])) := by
  rw [Tree.rename, h.directoryAt? hfile, h.slot]

end Receives

theorem locate_set_of_slot (h : t.slot path = .ok l) (hfile : t.entry? l ≠ some .directory)
    (content : List UInt8) : (t.set l (.file content)).locate path = .ok l := by
  obtain ⟨directory, name, hreceives, rfl⟩ := exists_of_slot h
  rw [(hreceives.set hfile content).locate, entry?_set_self (by simp)]
  rfl

theorem bytes?_set_of_slot (h : t.slot path = .ok l) (hfile : t.entry? l ≠ some .directory)
    (content : List UInt8) : (t.set l (.file content)).bytes? path = some content := by
  have hself : Tree.entry? (t.set l (.file content)) l = some (.file content) :=
    entry?_set_self (ne_nil_of_not_directory hfile)
  rw [Tree.bytes?, find?, locate_set_of_slot h hfile]
  simp [hself]

end Tree

namespace Draft

variable {t : Tree} {path content : Text} {out : Location}

theorem name_of_draftIn {directory : Location} {names : List Text} {d : Draft t}
    (h : t.draftIn directory names = .ok d) : d.name ∈ names := by
  induction names with
  | nil => cases h
  | cons name names ih =>
    simp only [Tree.draftIn] at h
    split at h
    · cases h
    · split at h
      · cases h
      · split at h
        · cases h
        · split at h
          · cases h
          · split at h
            · cases h
              exact List.mem_cons_self ..
            · exact List.mem_cons_of_mem name (ih h)

theorem nameFor_ne {name : Text} (hleaf : Path.leaf? path = some name) (mark : Text) :
    nameFor path mark ≠ name := by
  have hlast : (Path.steps path).getLast? = some name := by
    rw [(Path.leaf?_eq_some_iff.1 hleaf).1]
    simp
  intro h
  have hlength := congrArg List.length h
  simp [nameFor, hlast] at hlength
  omega

theorem location_ne {marks : List Text} {d : Draft t} (hd : t.draft path marks = .ok d)
    {name : Text} (hleaf : Path.leaf? path = some name) (directory : Location) :
    d.location ≠ directory ++ [name] := by
  obtain ⟨mark, -, hmark⟩ := List.mem_map.1 (name_of_draftIn hd)
  intro h
  apply nameFor_ne hleaf mark
  rw [hmark]
  simpa using (List.append_inj' h rfl).2

theorem unlink_made (d : Draft t) : d.made.unlink d.location = t :=
  Tree.unlink_set.trans (Tree.unlink_of_vacant d.vacant)

theorem publish_eq {marks : List Text} {d : Draft t} (hd : t.draft path marks = .ok d)
    (hout : t.slot path = .ok out) (hfile : t.entry? out ≠ some .directory) :
    d.publish path content = .ok (t.set out (.file (Utf8.encode content))) := by
  obtain ⟨directory, name, hreceives, rfl⟩ := Tree.exists_of_slot hout
  have hvacant : t.entry? d.location = none := d.vacant
  have hne := location_ne hd hreceives.leaf directory
  have hset := hreceives.set (m := d.location) (by simp [hvacant]) (Utf8.encode content)
  rw [publish, made, Tree.set_set, hset.rename, Tree.move_set hvacant]
  rwa [Tree.entry?_set_of_ne hne.symm]

theorem unlink_published {marks : List Text} {d : Draft t} (hd : t.draft path marks = .ok d)
    (hout : t.slot path = .ok out) {e : Entry} :
    (t.set out e).unlink d.location = t.set out e := by
  obtain ⟨directory, name, hreceives, rfl⟩ := Tree.exists_of_slot hout
  apply Tree.unlink_of_vacant
  rw [Tree.entry?_set_of_ne (location_ne hd hreceives.leaf directory)]
  exact d.vacant

end Draft

end HeaderProbe
