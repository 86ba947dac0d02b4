import HeaderProbe.Proofs.Run

namespace HeaderProbe

open HeaderProbe.Tree

variable {t : Tree} {l m : Location} {path : Text} {content : List UInt8}

namespace Tree

theorem locate_set_of_ok (hm : t.entry? m ≠ some .directory) (h : t.locate path = .ok l) :
    (t.set m (.file content)).locate path = .ok l := by
  unfold locate at h ⊢
  split at h
  · cases h
  · next hplain =>
    split at h
    · cases h
    · next hshort =>
      rw [if_neg hplain, if_neg hshort]
      exact walk_set_of_ok hm h

theorem walk_of_set (hm : t.entry? m ≠ some .directory) {ps : List Text} {k : Location}
    (h : (t.set m (.file content)).walk l ps = .ok k) (hk : k ≠ m) : t.walk l ps = .ok k := by
  rcases (differInFiles_set hm content).walk_eq_or l ps with hsame | ⟨m', hm', hwalk | hwalk⟩
  · rwa [hsame]
  · obtain rfl := List.mem_singleton.1 hm'
    rw [walk_set_of_ok hm hwalk] at h
    cases h
    exact absurd rfl hk
  · obtain rfl := List.mem_singleton.1 hm'
    rw [hwalk] at h
    cases h
    exact absurd rfl hk

theorem locate_of_set (hm : t.entry? m ≠ some .directory)
    (h : (t.set m (.file content)).locate path = .ok l) (hl : l ≠ m) : t.locate path = .ok l := by
  unfold locate at h ⊢
  split at h
  · cases h
  · next hplain =>
    split at h
    · cases h
    · next hshort =>
      rw [if_neg hplain, if_neg hshort]
      exact walk_of_set hm h hl

theorem directoryAt?_eq_some_iff {directory : Location} :
    t.directoryAt? path = some directory ↔
      t.locate path = .ok directory ∧ t.entry? directory = some .directory := by
  unfold directoryAt?
  split
  · next l hl =>
    rw [hl]
    constructor
    · intro h
      split at h
      · next hdir =>
        cases h
        exact ⟨rfl, hdir⟩
      · cases h
    · rintro ⟨⟨⟩, hdir⟩
      rw [if_pos hdir]
  · next hl => simp [hl]

theorem bytes?_of_directoryAt? {directory : Location} (h : t.directoryAt? path = some directory) :
    t.bytes? path = none := by
  obtain ⟨hlocate, hdir⟩ := directoryAt?_eq_some_iff.1 h
  rw [bytes?, find?, hlocate]
  simp [hdir]

theorem directoryAt?_set (hm : t.entry? m ≠ some .directory) :
    (t.set m (.file content)).directoryAt? path = t.directoryAt? path := by
  apply Option.ext
  intro directory
  rw [directoryAt?_eq_some_iff, directoryAt?_eq_some_iff]
  constructor
  · rintro ⟨hlocate, hdir⟩
    have hne : directory ≠ m := by
      rintro rfl
      rw [entry?_set_self (ne_nil_of_not_directory hm)] at hdir
      cases hdir
    rw [entry?_set_of_ne hne] at hdir
    exact ⟨locate_of_set hm hlocate hne, hdir⟩
  · rintro ⟨hlocate, hdir⟩
    have hne : directory ≠ m := by
      rintro rfl
      exact hm hdir
    rw [entry?_set_of_ne hne]
    exact ⟨locate_set_of_ok hm hlocate, hdir⟩

theorem exists_of_bytes? (h : t.bytes? path = some content) :
    ∃ l, t.locate path = .ok l ∧ t.entry? l = some (.file content) := by
  unfold bytes? find? at h
  cases hl : t.locate path with
  | error fault => simp [hl] at h
  | ok l =>
    refine ⟨l, rfl, ?_⟩
    simp only [hl] at h
    split at h
    · next he =>
      cases h
      exact he
    · cases h

theorem hasContent_set_empty (h : t.entry? m = none) {root p : Text}
    (hp : (t.set m (.file [])).locate (Path.join root p) = .ok m) :
    (t.set m (.file [])).hasContent root p = false ∧ t.hasContent root p = false := by
  have hempty {u : Tree} (hu : ∀ b, u.bytes? (Path.join root p) = some b → b = []) :
      u.hasContent root p = false := by
    unfold hasContent
    cases hb : u.bytes? (Path.join root p) with
    | none => rfl
    | some b =>
      rw [hu b hb]
      rfl
  constructor
  · refine hempty fun b hb => ?_
    obtain ⟨k, hk, he⟩ := exists_of_bytes? hb
    rw [hp] at hk
    cases hk
    rw [entry?_set_self (ne_nil_of_vacant h)] at he
    cases he
    rfl
  · refine hempty fun b hb => ?_
    obtain ⟨k, hk, he⟩ := exists_of_bytes? hb
    rw [locate_set_of_ok (by simp [h]) hk] at hp
    cases hp
    rw [h] at he
    cases he

theorem isOk_draftIn_set (hm : t.entry? m ≠ some .directory) {directory : Location}
    {names : List Text} (hnames : ∀ name ∈ names, directory ++ [name] ≠ m)
    (h : (t.draftIn directory names).isOk = true) :
    ((t.set m (.file content)).draftIn directory names).isOk = true := by
  induction names with
  | nil => cases h
  | cons name names ih =>
    rw [List.forall_mem_cons] at hnames
    simp only [draftIn] at h ⊢
    cases hwalk : t.walk [] directory with
    | error fault => simp [hwalk, Except.isOk, Except.toBool] at h
    | ok k =>
      rw [walk_set_of_ok hm hwalk]
      simp only [hwalk] at h
      dsimp only
      split at h
      · cases h
      · next hdir =>
        have hne : directory ≠ m := by
          rintro rfl
          exact hdir hm
        rw [entry?_set_of_ne hne, if_neg hdir]
        split at h
        · cases h
        · next hname =>
          rw [if_neg hname]
          split at h
          · cases h
          · next hlong =>
            rw [if_neg hlong]
            split
            · rfl
            · next htaken =>
              rw [entry?_set_of_ne hnames.1] at htaken
              rw [dif_neg htaken] at h
              exact ih hnames.2 h

end Tree

namespace Draft

variable {d : Draft t} {text : Text} {published : Tree}

theorem not_directory (d : Draft t) : t.entry? d.location ≠ some .directory := by
  rw [location, d.vacant]
  simp

theorem readAlike (d : Draft t) (root : Text) (files : List Text) :
    Tree.ReadAlike root files d.made t := by
  intro p _
  have hvacant : t.entry? d.location = none := d.vacant
  by_cases hp : d.made.locate (Path.join root p) = .ok d.location
  · obtain ⟨hmade, ht⟩ := hasContent_set_empty hvacant hp
    rw [made, hmade, ht]
    exact ⟨fun h => Bool.noConfusion h, rfl⟩
  · have hbytes := bytes?_set_of_vacant hvacant hp
    rw [Tree.text?, Tree.text?, Tree.hasContent, Tree.hasContent, made, hbytes]
    exact ⟨fun _ => rfl, rfl⟩

theorem rename_of_publish (h : d.publish path text = .ok published) :
    (t.set d.location (.file (Utf8.encode text))).rename d.location path = .ok published := by
  rw [publish, made, Tree.set_set] at h
  split at h
  · next u hu =>
    cases h
    exact hu
  · cases h

theorem exists_slot_of_publish (h : d.publish path text = .ok published)
    (hpath : t.directoryAt? path = none) :
    ∃ out, t.slot path = .ok out ∧ t.entry? out ≠ some .directory := by
  have hvacant := d.not_directory
  have hrename := rename_of_publish h
  rw [rename, directoryAt?_set hvacant, hpath] at hrename
  cases hslot : (t.set d.location (.file (Utf8.encode text))).slot path with
  | error fault => simp [hslot] at hrename
  | ok out =>
    obtain ⟨directory, name, hreceives, rfl⟩ := exists_of_slot hslot
    have hne : directory ≠ d.location := by
      rintro rfl
      have hdir := hreceives.isDirectory
      rw [entry?_set_self (ne_nil_of_not_directory hvacant)] at hdir
      cases hdir
    have hbefore : Receives t path directory name :=
      { hreceives with
        walk := walk_of_set hvacant hreceives.walk hne
        isDirectory := by
          rw [← hreceives.isDirectory, entry?_set_of_ne hne] }
    refine ⟨_, hbefore.slot, fun hdir => ?_⟩
    have hat : t.directoryAt? path = some (directory ++ [name]) := by
      rw [directoryAt?_eq_some_iff, hbefore.locate, hdir]
      exact ⟨rfl, rfl⟩
    rw [hpath] at hat
    cases hat

theorem eq_of_publish {directory : Location} (h : d.publish path text = .ok published)
    (hpath : t.directoryAt? path = some directory) :
    t.entry? (directory ++ [d.name]) = none ∧ directory ++ [d.name] ≠ d.location ∧
      published = t.set (directory ++ [d.name]) (.file (Utf8.encode text)) := by
  have hvacant : t.entry? d.location = none := d.vacant
  have hrename := rename_of_publish h
  have hname : d.location.getLast?.getD [] = d.name := by simp [location]
  rw [rename, directoryAt?_set d.not_directory, hpath, hname] at hrename
  dsimp only at hrename
  split at hrename
  · cases hrename
  · split at hrename
    · cases hrename
    · next hfree =>
      rw [Option.isSome_iff_ne_none, not_not] at hfree
      have hne : directory ++ [d.name] ≠ d.location := by
        intro heq
        rw [heq, entry?_set_self (ne_nil_of_vacant hvacant)] at hfree
        cases hfree
      rw [entry?_set_of_ne hne] at hfree
      rw [move_set hvacant] at hrename
      exact ⟨hfree, hne, (Except.ok.inj hrename).symm⟩

end Draft

section Run

variable {s : Settings} {config : Text} {marks : List Text} {out : Location} {d : Draft t}

def Settings.written (s : Settings) (config : Text) (t : Tree) : List UInt8 :=
  Utf8.encode (banner s.rootLabel ++ (s.catalog.run s config t).output)

structure Moved (s : Settings) (t : Tree) (path : Text) (marks : List Text) (config : Text) (d : Draft t)
    (published : Tree) : Prop where
  prepared : prepare s t = .ok config
  drafted : t.draft path marks = .ok d
  ran : (s.catalog.run s config t).value = .ok ()
  moved : d.publish path (banner s.rootLabel ++ (s.catalog.run s config t).output) = .ok published
  shown : s.unitTesting = true ∨ ∃ content, (published.unlink d.location).bytes? path = some content
  tree : (run s t marks).tree = published.unlink d.location

theorem catalog_run_made (s : Settings) (config : Text) (d : Draft t) :
    s.catalog.run s config d.made = s.catalog.run s config t :=
  Catalog.run_congr (d.readAlike s.rootPath s.catalog.files) config

theorem exists_moved (hpath : s.out = some path) (hok : (run s t marks).error = none) :
    ∃ config d published, Moved s t path marks config d published := by
  cases hconfig : prepare s t with
  | error e =>
    rw [run_of_error hconfig] at hok
    cases hok
  | ok config =>
    cases hdraft : t.draft path marks with
    | error fault =>
      simp [run, hconfig, hpath, hdraft, Report.failed] at hok
    | ok d =>
      have hrun := run_to_draft hpath hconfig hdraft
      unfold runToDraft at hrun
      rw [catalog_run_made] at hrun
      dsimp only at hrun
      cases hvalue : (s.catalog.run s config t).value with
      | error e => simp [hrun, hvalue, Except.bind] at hok
      | ok _ =>
        simp only [hvalue, Except.bind] at hrun
        split at hrun
        · simp [hrun] at hok
        · next published hpublished =>
          split at hrun
          · next htesting =>
            exact ⟨config, d, published, hconfig, hdraft, hvalue, hpublished, .inl htesting, by rw [hrun]⟩
          · split at hrun
            · next content hcontent =>
              exact ⟨config, d, published, hconfig, hdraft, hvalue, hpublished, .inr ⟨content, hcontent⟩,
                by rw [hrun]⟩
            · simp [hrun] at hok

theorem Moved.into {published : Tree} (h : Moved s t path marks config d published) {directory : Location}
    (hpath : t.directoryAt? path = some directory) :
    s.unitTesting = true ∧ t.entry? (directory ++ [d.name]) = none ∧
      (run s t marks).tree = t.set (directory ++ [d.name]) (.file (s.written config t)) := by
  obtain ⟨hfree, hne, rfl⟩ := Draft.eq_of_publish h.moved hpath
  have hkept : (t.set (directory ++ [d.name]) (.file (s.written config t))).unlink d.location =
      t.set (directory ++ [d.name]) (.file (s.written config t)) := by
    apply unlink_of_vacant
    rw [entry?_set_of_ne hne.symm]
    exact d.vacant
  have hshown := h.shown
  have htree := h.tree
  rw [← Settings.written, hkept] at hshown htree
  refine ⟨hshown.resolve_right ?_, hfree, htree⟩
  rintro ⟨content, hcontent⟩
  rw [bytes?_of_directoryAt? ((directoryAt?_set (by simp [hfree])).trans hpath)] at hcontent
  cases hcontent

structure Published (s : Settings) (t : Tree) (path : Text) (marks : List Text) (config : Text)
    (d : Draft t) (out : Location) : Prop where
  prepared : prepare s t = .ok config
  drafted : t.draft path marks = .ok d
  ran : (s.catalog.run s config t).value = .ok ()
  slot : t.slot path = .ok out
  replaceable : t.entry? out ≠ some .directory

theorem Moved.published {published : Tree} (h : Moved s t path marks config d published)
    (hpath : t.directoryAt? path = none) : ∃ out, Published s t path marks config d out := by
  obtain ⟨out, hslot, hout⟩ := Draft.exists_slot_of_publish h.moved hpath
  exact ⟨out, h.prepared, h.drafted, h.ran, hslot, hout⟩

theorem exists_published (hpath : s.out = some path)
    (hdirectory : s.unitTesting = true → t.directoryAt? path = none)
    (hok : (run s t marks).error = none) : ∃ config d out, Published s t path marks config d out := by
  obtain ⟨config, d, published, h⟩ := exists_moved hpath hok
  have hnone : t.directoryAt? path = none := by
    rw [Option.eq_none_iff_forall_ne_some]
    intro directory hat
    rw [hdirectory (h.into hat).1] at hat
    cases hat
  obtain ⟨out, hpublished⟩ := h.published hnone
  exact ⟨config, d, out, hpublished⟩

theorem Published.run_eq (h : Published s t path marks config d out) (hpath : s.out = some path) :
    run s t marks =
      { output := []
        echo := if s.unitTesting then [] else echo (Utf8.decode (s.written config t))
        log := (s.catalog.run s config t).log
        tree := t.set out (.file (s.written config t))
        error := none } := by
  rw [run_to_draft hpath h.prepared h.drafted, runToDraft, catalog_run_made]
  simp only [h.ran, Except.bind, Draft.publish_eq h.drafted h.slot h.replaceable]
  rw [← Settings.written, Draft.unlink_published h.drafted h.slot,
    bytes?_set_of_slot h.slot h.replaceable]
  split <;> rfl

theorem Settings.mem_reads_config {p : Text} (hp : s.config = some p) : Path.plain p ∈ s.reads := by
  simp [Settings.reads, hp]

theorem Settings.mem_reads_marker (s : Settings) : Path.join s.rootPath marker ∈ s.reads := by
  simp [Settings.reads]

theorem Settings.mem_reads_catalog {p : Text} (hp : p ∈ s.catalog.files) :
    Path.join s.rootPath p ∈ s.reads := by
  rw [Settings.reads, List.mem_eraseDups]
  refine List.mem_append_right _ (List.mem_map.2 ⟨p, List.mem_cons_of_mem marker hp, rfl⟩)

theorem prepare_of_alike {u : Tree} (h : ∀ p ∈ s.reads, t.bytes? p = u.bytes? p)
    (hprepare : prepare s t = .ok config) : prepare s u = .ok config := by
  have hmarker : t.hasContent s.rootPath marker = u.hasContent s.rootPath marker := by
    rw [hasContent, hasContent, h _ s.mem_reads_marker]
  unfold prepare at hprepare ⊢
  cases hroot : checkRoot s t with
  | error e => simp [hroot, bind, Except.bind] at hprepare
  | ok _ =>
    have hfound : t.hasContent s.rootPath marker = true := by
      by_contra hlacks
      rw [checkRoot, if_neg hlacks] at hroot
      split at hroot <;> cases hroot
    rw [checkRoot, if_pos (hmarker ▸ hfound)]
    rw [hroot] at hprepare
    change readConfig s t = .ok config at hprepare
    change readConfig s u = .ok config
    unfold readConfig at hprepare ⊢
    cases hconfig : s.config with
    | none => simp [hconfig] at hprepare
    | some p =>
      have hbytes := h _ (Settings.mem_reads_config hconfig)
      simp only [hconfig, Option.map_some, text?, hbytes] at hprepare ⊢
      split at hprepare
      · exact hprepare
      · split at hprepare <;> cases hprepare

theorem bytes?_set_of_apart (hout : t.entry? out ≠ some .directory) {p : Text}
    (hp : (t.set out (.file content)).locate p ≠ .ok out) :
    t.bytes? p = (t.set out (.file content)).bytes? p := by
  refine (differInFiles_set hout content).bytes?_eq ?_ ?_
  · simpa using fun h => hp (locate_set_of_ok hout h)
  · simpa using hp

theorem Published.again (h : Published s t path marks config d out) {u : Tree}
    (hu : u = t.set out (.file content)) (hapart : ∀ p ∈ s.reads, u.locate p ≠ .ok out)
    {marks' : List Text} {d' : Draft u} (hd' : u.draft path marks' = .ok d') :
    Published s u path marks' config d' out ∧
      s.catalog.run s config u = s.catalog.run s config t := by
  subst hu
  have hbytes : ∀ p ∈ s.reads, t.bytes? p = (t.set out (.file content)).bytes? p :=
    fun p hp => bytes?_set_of_apart h.replaceable (hapart p hp)
  have hrun : s.catalog.run s config t = s.catalog.run s config (t.set out (.file content)) := by
    refine Catalog.run_congr (Tree.Alike.readAlike fun p hp => ?_) config
    exact hbytes _ (Settings.mem_reads_catalog hp)
  refine ⟨⟨prepare_of_alike hbytes h.prepared, hd', by rw [← hrun, h.ran], ?_, ?_⟩, hrun.symm⟩
  · obtain ⟨directory, name, hreceives, rfl⟩ := exists_of_slot h.slot
    exact (hreceives.set h.replaceable content).slot
  · rw [entry?_set_self (ne_nil_of_not_directory h.replaceable)]
    simp

theorem isOk_draft_set (hd : t.draft path marks = .ok d) (hslot : t.slot path = .ok out)
    (hout : t.entry? out ≠ some .directory) :
    ((t.set out (.file content)).draft path marks).isOk = true := by
  obtain ⟨directory, name, hreceives, rfl⟩ := exists_of_slot hslot
  have hsome : (t.draft path marks).isOk = true := by
    rw [hd]
    rfl
  refine isOk_draftIn_set hout (fun draftName hmem h => ?_) hsome
  obtain ⟨mark, -, rfl⟩ := List.mem_map.1 hmem
  -- A draft's name holds that of the file and more, so the file does not take it.
  apply Draft.nameFor_ne hreceives.leaf mark
  simpa using (List.append_inj' h rfl).2

/-- Whether a run leaves a file at its path, and each further run leaves that file and all others as they are. -/
def Repeats (s : Settings) (path : Text) (marks : List Text) (r : Report) : Prop :=
  (∃ content, r.tree.bytes? path = some content) ∧ run s r.tree marks = r ∧
    ∀ marks', (r.tree.draft path marks').isOk = true → run s r.tree marks' = r

theorem Published.repeats (h : Published s t path marks config d out) (hpath : s.out = some path)
    (hapart : ∀ p ∈ s.reads, (run s t marks).tree.locate p ≠ (run s t marks).tree.locate path) :
    Repeats s path marks (run s t marks) := by
  have htree : (run s t marks).tree = t.set out (.file (s.written config t)) := by
    rw [h.run_eq hpath]
  have hlocate : (run s t marks).tree.locate path = .ok out := by
    rw [htree, locate_set_of_slot h.slot h.replaceable]
  rw [hlocate] at hapart
  have hagain (marks' : List Text) (hmarks : ((run s t marks).tree.draft path marks').isOk = true) :
      run s (run s t marks).tree marks' = run s t marks := by
    cases hd' : (run s t marks).tree.draft path marks' with
    | error fault =>
      rw [hd'] at hmarks
      cases hmarks
    | ok d' =>
      obtain ⟨h', hsame⟩ := h.again htree hapart hd'
      have hwritten : s.written config (run s t marks).tree = s.written config t := by
        rw [Settings.written, hsame, Settings.written]
      rw [h'.run_eq hpath, hwritten, hsame, htree, set_set, h.run_eq hpath]
  refine ⟨⟨s.written config t, ?_⟩, hagain marks ?_, hagain⟩
  · rw [htree, bytes?_set_of_slot h.slot h.replaceable]
  · rw [htree]
    exact isOk_draft_set h.drafted h.slot h.replaceable

/-- Whether a run puts what it writes into a directory, under a name that nothing has there. -/
def AddsTo (s : Settings) (directory : Location) (t u : Tree) : Prop :=
  ∃ config name, prepare s t = .ok config ∧ t.entry? (directory ++ [name]) = none ∧
    u = t.set (directory ++ [name]) (.file (s.written config t))

theorem AddsTo.directoryAt? {directory : Location} {u : Tree} (h : AddsTo s directory t u)
    (hpath : t.directoryAt? path = some directory) : u.directoryAt? path = some directory := by
  obtain ⟨config, name, -, hfree, rfl⟩ := h
  rw [directoryAt?_set (by simp [hfree]), hpath]

theorem run_into_directory {directory : Location} (hpath : s.out = some path)
    (hdirectory : t.directoryAt? path = some directory) (hok : (run s t marks).error = none) :
    s.unitTesting = true ∧ AddsTo s directory t (run s t marks).tree := by
  obtain ⟨config, d, published, h⟩ := exists_moved hpath hok
  obtain ⟨htesting, hfree, htree⟩ := h.into hdirectory
  exact ⟨htesting, config, d.name, h.prepared, hfree, htree⟩

theorem run_repeats_iff {r : Report} (hpath : s.out = some path) (hr : r = run s t marks)
    (hok : r.error = none) (hapart : ∀ p ∈ s.reads, r.tree.locate p ≠ r.tree.locate path) :
    (Repeats s path marks r ↔ t.directoryAt? path = none) ∧
      ∀ directory, t.directoryAt? path = some directory →
        s.unitTesting = true ∧ AddsTo s directory t r.tree ∧
          ∀ marks', (run s r.tree marks').error = none →
            AddsTo s directory r.tree (run s r.tree marks').tree := by
  subst hr
  refine ⟨⟨fun h => ?_, fun hnone => ?_⟩, fun directory hdirectory => ?_⟩
  · obtain ⟨⟨content, hcontent⟩, -⟩ := h
    rw [Option.eq_none_iff_forall_ne_some]
    intro directory hdirectory
    have hadds := (run_into_directory hpath hdirectory hok).2
    rw [bytes?_of_directoryAt? (hadds.directoryAt? hdirectory)] at hcontent
    cases hcontent
  · obtain ⟨config, d, published, h⟩ := exists_moved hpath hok
    obtain ⟨out, hpublished⟩ := h.published hnone
    exact hpublished.repeats hpath hapart
  · obtain ⟨htesting, hadds⟩ := run_into_directory hpath hdirectory hok
    refine ⟨htesting, hadds, fun marks' hok' => ?_⟩
    exact (run_into_directory hpath (hadds.directoryAt? hdirectory) hok').2

theorem run_repeats_on_small_tree :
    let s := smallSettings ["HAVE_K if macro K in include/linux/kernel.h"]
    let r := run s smallTree ["0".toList]
    r.error = none ∧ run s r.tree ["0".toList] = r ∧ run s r.tree ["1".toList] = r := by
  intro s r
  have hpath : s.out = some "defs.h".toList := rfl
  have hr : r = run s smallTree ["0".toList] := rfl
  have hok : r.error = none := by decide +kernel
  obtain ⟨hrepeats, -⟩ := run_repeats_iff hpath hr hok (by decide +kernel)
  obtain ⟨-, hsame, hother⟩ := hrepeats.2 (by decide +kernel)
  exact ⟨hok, hsame, hother ["1".toList] (by decide +kernel)⟩

def workTree : Tree where
  entries := (["work".toList], .directory) :: smallTree.entries.map fun e => ("work".toList :: e.1, e.2)
  current := ["work".toList]

def upwardSettings : Settings where
  config := some "config".toList
  out := some "..".toList
  unitTesting := true
  catalog := [{
    name := "core".toList
    entries := [{ query := "HAVE_K if macro K in include/linux/kernel.h".toList }]
    onRecord := true }]

theorem run_into_directory_unrepeated :
    let r := run upwardSettings workTree ["0".toList]
    let r' := run upwardSettings r.tree ["1".toList]
    r.error = none ∧ (∀ p ∈ upwardSettings.reads, r.tree.locate p ≠ r.tree.locate "..".toList) ∧
      r'.error = none ∧ r.tree.entry? ["....1".toList] = none ∧
      r'.tree.entry? ["....1".toList] = r.tree.entry? ["....0".toList] ∧
      r.tree.entry? ["....0".toList] = some (.file (Utf8.encode (banner [] ++
        "#define HAVE_K 1 /* macro K in include/linux/kernel.h:1 */\n".toList))) := by
  decide +kernel

end Run

end HeaderProbe
