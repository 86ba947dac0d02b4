import HeaderProbe.Proofs.Query.Alike
import HeaderProbe.Proofs.Query.Parser
import HeaderProbe.Proofs.Tree.Draft
import HeaderProbe.Run.Reads

namespace HeaderProbe

variable {root : Text} {t u : Tree}

theorem extractFragments_congr {fragments : List Fragment}
    (h : Tree.ReadAlike root (fragments.flatMap Fragment.files) t u) (found : List (Text × Text)) :
    extractFragments root t fragments found = extractFragments root u fragments found := by
  induction fragments generalizing found with
  | nil => rfl
  | cons f rest ih =>
    rw [List.flatMap_cons, Tree.readAlike_append] at h
    obtain ⟨hf, hrest⟩ := h
    simp only [extractFragments, extract_congr hf, ih hrest]

theorem CatalogEntry.files_of_ofLine {e : CatalogEntry} {literal : Option Text} {label : Text}
    {q : Query} (hl : literal.isSome = e.fragment.isSome)
    (hq : Query.ofLine e.query literal label = .ok q) : q.paths = e.files := by
  have hsome : literal.isSome = (e.fragment.map fun _ => ([] : Text)).isSome := by simpa using hl
  have h := Query.ofLine_congr hsome label literalMark e.query
  rw [hq] at h
  unfold CatalogEntry.files
  split
  · next hother => simp [hother, Except.toOption] at h
  · next other hother => simpa [hother, Except.toOption] using h

theorem CatalogEntry.runWith_congr {e : CatalogEntry} (h : Tree.ReadAlike root e.files t u)
    {literal : Option Text} (hl : literal.isSome = e.fragment.isSome) :
    e.runWith root t literal = e.runWith root u literal := by
  unfold CatalogEntry.runWith
  cases hq : Query.ofLine e.query literal (fragmentLabel e.fragment) with
  | error err => rfl
  | ok q =>
    rw [← CatalogEntry.files_of_ofLine hl hq] at h
    simp only [Query.generate_congr h]

theorem CatalogEntry.run_congr {e : CatalogEntry} (h : Tree.ReadAlike root e.files t u)
    (fragments : List (Text × Text)) : e.run root t fragments = e.run root u fragments := by
  unfold CatalogEntry.run
  cases hfragment : e.fragment with
  | none => exact CatalogEntry.runWith_congr h (by rw [hfragment])
  | some f =>
    dsimp only
    cases fragments.lookup f with
    | none => rfl
    | some text => exact CatalogEntry.runWith_congr h (by rw [hfragment]; rfl)

theorem runEntries_congr {entries : List CatalogEntry}
    (h : Tree.ReadAlike root (entries.flatMap CatalogEntry.files) t u)
    (fragments : List (Text × Text)) :
    runEntries root t fragments entries = runEntries root u fragments entries := by
  induction entries with
  | nil => rfl
  | cons e rest ih =>
    rw [List.flatMap_cons, Tree.readAlike_append] at h
    obtain ⟨he, hrest⟩ := h
    simp only [runEntries, CatalogEntry.run_congr he, ih hrest]

theorem CatalogGroup.run_congr {g : CatalogGroup} (h : Tree.ReadAlike root g.files t u) :
    g.run root t = g.run root u := by
  rw [CatalogGroup.files, Tree.readAlike_append, Tree.readAlike_append] at h
  obtain ⟨⟨-, hfragments⟩, hentries⟩ := h
  simp only [CatalogGroup.run, extractFragments_congr hfragments, runEntries_congr hentries]

theorem CatalogGroup.obstacle?_congr {g : CatalogGroup} {s : Settings}
    (h : Tree.ReadAlike s.rootPath g.files t u) (config : Text) :
    g.obstacle? s config t = g.obstacle? s config u := by
  unfold CatalogGroup.obstacle?
  cases hrequired : g.requiredFile with
  | none => rfl
  | some f =>
    have hf : f ∈ g.files := by simp [CatalogGroup.files, hrequired]
    simp only [Option.filter, (h f hf).2]

theorem Catalog.run_congr {s : Settings} {c : Catalog} (h : Tree.ReadAlike s.rootPath c.files t u)
    (config : Text) : Catalog.run s config t c = Catalog.run s config u c := by
  induction c with
  | nil => rfl
  | cons g rest ih =>
    rw [Catalog.files, List.flatMap_cons, Tree.readAlike_append] at h
    obtain ⟨hg, hrest⟩ := h
    simp only [Catalog.run, CatalogGroup.obstacle?_congr hg, CatalogGroup.run_congr hg, ih hrest]

theorem Catalog.run_congr_settings {s s' : Settings} (hroot : s.rootPath = s'.rootPath)
    (htesting : s.unitTesting = s'.unitTesting) (config : Text) (t : Tree) (c : Catalog) :
    Catalog.run s config t c = Catalog.run s' config t c := by
  induction c with
  | nil => rfl
  | cons g rest ih => simp only [Catalog.run, CatalogGroup.obstacle?, hroot, htesting, ih]

theorem Draft.alike {d : Draft t} {files : List Text}
    (h : ∀ p ∈ files, d.made.locate (Path.join root p) ≠ .ok d.location) :
    Tree.ReadAlike root files d.made t :=
  Tree.Alike.readAlike fun p hp => Tree.bytes?_set_of_vacant d.vacant (h p hp)

section Draft

variable {s : Settings} {config path : Text} {marks : List Text} {out : Location} {d : Draft t}

theorem run_of_error {e : ProbeError} (h : prepare s t = .error e) :
    run s t marks = .failed e t := by
  rw [run, h]

theorem run_without_out (h : prepare s t = .ok config) :
    run { s with out := none } t marks = runToOutput s config t := by
  have hprepare : prepare { s with out := none } t = .ok config := h
  have hrun : Catalog.run { s with out := none } config t s.catalog =
      Catalog.run s config t s.catalog :=
    Catalog.run_congr_settings (by rfl) (by rfl) config t s.catalog
  rw [run, hprepare]
  simp only [runToOutput, hrun]

theorem run_to_draft (hpath : s.out = some path) (h : prepare s t = .ok config)
    (hdraft : t.draft path marks = .ok d) : run s t marks = runToDraft s config path d := by
  rw [run, h, hpath]
  simp only [hdraft]

theorem runToDraft_of_error {e : ProbeError} (h : (s.catalog.run s config d.made).value = .error e) :
    runToDraft s config path d = ⟨[], [], (s.catalog.run s config d.made).log, t, some e⟩ := by
  simp only [runToDraft, h, Except.bind, Draft.unlink_made]

theorem runToDraft_of_ok (hd : t.draft path marks = .ok d) (hout : t.slot path = .ok out)
    (hfile : t.entry? out ≠ some .directory) (h : (s.catalog.run s config d.made).value = .ok ()) :
    (runToDraft s config path d).error = none ∧
      (runToDraft s config path d).tree =
        t.set out (.file (Utf8.encode
          (banner s.rootLabel ++ (s.catalog.run s config d.made).output))) := by
  have hread := Tree.bytes?_set_of_slot hout hfile
  simp only [runToDraft, h, Except.bind, Draft.publish_eq hd hout hfile,
    Draft.unlink_published hd hout, hread]
  cases s.unitTesting <;> exact ⟨rfl, rfl⟩

theorem run_to_file_agrees {r shown : Report} (hpath : s.out = some path)
    (hout : t.slot path = .ok out) (hfile : t.entry? out ≠ some .directory)
    (hdraft : t.draft path marks = .ok d)
    (hunread : ∀ p ∈ s.catalog.files, d.made.locate (Path.join s.rootPath p) ≠ .ok d.location)
    (hr : r = run s t marks) (hshown : shown = run { s with out := none } t marks) :
    r.error = shown.error ∧
      (r.error ≠ none → r.tree = t ∧ r.output = [] ∧ r.echo = []) ∧
      (r.error = none →
        r.tree.entry? out = some (.file (Utf8.encode (banner s.rootLabel ++ shown.output))) ∧
        r.tree.entry? d.location = none ∧
        ∀ l, l ≠ out → r.tree.entry? l = t.entry? l) := by
  cases hconfig : prepare s t with
  | error e =>
    rw [run_of_error hconfig] at hr
    rw [run_of_error (s := { s with out := none }) hconfig] at hshown
    subst hr hshown
    exact ⟨rfl, fun _ => ⟨rfl, rfl, rfl⟩, fun h => nomatch h⟩
  | ok config =>
    rw [run_to_draft hpath hconfig hdraft] at hr
    rw [run_without_out hconfig, runToOutput] at hshown
    have hsame := Catalog.run_congr (Draft.alike hunread) config
    cases hvalue : (s.catalog.run s config t).value with
    | error e =>
      rw [runToDraft_of_error (by rw [hsame, hvalue])] at hr
      subst hr hshown
      exact ⟨by simp [Outcome.error?, hvalue], fun _ => ⟨rfl, rfl, rfl⟩, fun h => nomatch h⟩
    | ok _ =>
      obtain ⟨herror, htree⟩ := runToDraft_of_ok hdraft hout hfile (by rw [hsame, hvalue])
      rw [← hr] at herror htree
      rw [hsame] at htree
      refine ⟨by simp [herror, hshown, Outcome.error?, hvalue], fun h => absurd herror h, fun _ => ?_⟩
      obtain ⟨directory, name, hreceives, rfl⟩ := Tree.exists_of_slot hout
      rw [htree, hshown]
      refine ⟨Tree.entry?_set_self (by simp), ?_, fun l hl => Tree.entry?_set_of_ne hl⟩
      rw [Tree.entry?_set_of_ne (Draft.location_ne hdraft hreceives.leaf directory)]
      exact d.vacant

end Draft

def smallTree : Tree where
  entries := [(["include".toList], .directory),
    (["include".toList, "linux".toList], .directory),
    (["include".toList, "linux".toList, "kernel.h".toList], .file (Utf8.encode "#define K\n".toList)),
    (["config".toList], .file [])]

def smallDraft : Draft smallTree :=
  ⟨[], ".defs.h.0".toList, by decide⟩

def smallSettings (queries : List String) : Settings where
  config := some "config".toList
  out := some "defs.h".toList
  catalog := [{
    name := "core".toList
    entries := queries.map fun q => { query := q.toList } }]

theorem run_to_file_agrees_on_small_tree :
    Tree.entry? (run (smallSettings ["HAVE_K if macro K in include/linux/kernel.h"]) smallTree
          ["0".toList]).tree ["defs.h".toList] =
        some (.file (Utf8.encode (banner [] ++
          "#define HAVE_K 1 /* macro K in include/linux/kernel.h:1 */\n".toList))) ∧
      (run (smallSettings ["HAVE_K if macro K in include/linux/kernel.h", "bogus"]) smallTree
        ["0".toList]).tree = smallTree := by
  have hout : smallTree.slot "defs.h".toList = .ok ["defs.h".toList] := by decide +kernel
  have hdraft : smallTree.draft "defs.h".toList ["0".toList] = .ok smallDraft := by decide +kernel
  have agrees (queries : List String)
      (hunread : ∀ p ∈ (smallSettings queries).catalog.files,
        smallDraft.made.locate (Path.join (smallSettings queries).rootPath p) ≠
          .ok smallDraft.location) :=
    run_to_file_agrees (s := smallSettings queries) rfl hout (by decide) hdraft hunread rfl rfl
  constructor
  · have h := agrees ["HAVE_K if macro K in include/linux/kernel.h"] (by decide +kernel)
    have houtput : (run { smallSettings ["HAVE_K if macro K in include/linux/kernel.h"] with out := none }
        smallTree ["0".toList]).output =
        "#define HAVE_K 1 /* macro K in include/linux/kernel.h:1 */\n".toList := by
      decide +kernel
    rw [← houtput]
    exact (h.2.2 (by decide +kernel)).1
  · have h := agrees ["HAVE_K if macro K in include/linux/kernel.h", "bogus"] (by decide +kernel)
    exact (h.2.1 (by decide +kernel)).1

end HeaderProbe
