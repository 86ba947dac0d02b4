import HeaderProbe.Proofs.Catalog.Items
import HeaderProbe.Proofs.Run

namespace HeaderProbe

variable {s : Settings} {config : Text} {t : Tree}

def CatalogGroup.Sound (g : CatalogGroup) (root : Text) (t : Tree) : Prop :=
  (∀ f ∈ g.fragments, ∃ text, f.extracted root t = .ok text) ∧
    ∀ e ∈ g.entries, ∃ text, g.emitted root t e = .ok text

namespace Catalog

def Sound (s : Settings) (config : Text) (t : Tree) (c : Catalog) : Prop :=
  ∀ g ∈ c, g.Runs s config t → g.Sound s.rootPath t

/-- The first failure in a catalog: the catalog up to it, and the error. Fragments come before the
entries of their group. -/
inductive FailsAt (s : Settings) (config : Text) (t : Tree) : Catalog → Catalog → ProbeError → Prop
  | fragment {before after : Catalog} {g : CatalogGroup} {done more : List Fragment} {f : Fragment}
      {e : ProbeError} (hbefore : before.Sound s config t) (hruns : g.Runs s config t)
      (hsplit : g.fragments = done ++ f :: more)
      (hdone : ∀ d ∈ done, ∃ text, d.extracted s.rootPath t = .ok text)
      (hfails : f.extracted s.rootPath t = .error e) :
      FailsAt s config t (before ++ g :: after)
        (before ++ [{ g with fragments := done, entries := [] }]) e
  | entry {before after : Catalog} {g : CatalogGroup} {done more : List CatalogEntry}
      {entry : CatalogEntry} {e : ProbeError} (hbefore : before.Sound s config t)
      (hruns : g.Runs s config t)
      (hfragments : ∀ f ∈ g.fragments, ∃ text, f.extracted s.rootPath t = .ok text)
      (hsplit : g.entries = done ++ entry :: more)
      (hdone : ∀ d ∈ done, ∃ text, g.emitted s.rootPath t d = .ok text)
      (hfails : g.emitted s.rootPath t entry = .error e) :
      FailsAt s config t (before ++ g :: after) (before ++ [{ g with entries := done }]) e

end Catalog

open Items

theorem Fragment.exists_item_eq_ok_iff {f : Fragment} {root : Text} :
    (∃ text, f.item root t = .ok text) ↔ ∃ text, f.extracted root t = .ok text := by
  unfold item
  cases f.extracted root t <;> simp [Except.map]

theorem Fragment.item_eq_error_iff {f : Fragment} {root : Text} {e : ProbeError} :
    f.item root t = .error e ↔ f.extracted root t = .error e := by
  unfold item
  cases f.extracted root t <;> simp [Except.map]

theorem CatalogGroup.failure?_fragments {root : Text} {fragments : List Fragment} :
    failure? (fragments.map (·.item root t)) = none ↔
      ∀ f ∈ fragments, ∃ text, f.extracted root t = .ok text := by
  rw [failure?_eq_none_iff, List.forall_mem_map]
  exact forall₂_congr fun _ _ => Fragment.exists_item_eq_ok_iff

theorem CatalogGroup.failure?_entries {g : CatalogGroup} {root : Text} {entries : List CatalogEntry} :
    failure? (entries.map (g.emitted root t)) = none ↔
      ∀ e ∈ entries, ∃ text, g.emitted root t e = .ok text := by
  rw [failure?_eq_none_iff, List.forall_mem_map]

theorem CatalogGroup.failure?_items {g : CatalogGroup} {root : Text} :
    failure? (g.items root t) = none ↔ g.Sound root t := by
  rw [items, failure?_append, Option.or_eq_none_iff, failure?_fragments, failure?_entries]
  rfl

namespace Catalog

theorem items_append (c d : Catalog) :
    Catalog.items s config t (c ++ d) = Catalog.items s config t c ++ Catalog.items s config t d := by
  simp [items]

theorem items_cons {g : CatalogGroup} (h : g.Runs s config t) (c : Catalog) :
    Catalog.items s config t (g :: c) = g.items s.rootPath t ++ Catalog.items s config t c := by
  simp [items, h]

theorem items_cons_of_not_runs {g : CatalogGroup} (h : ¬ g.Runs s config t) (c : Catalog) :
    Catalog.items s config t (g :: c) = Catalog.items s config t c := by
  simp [items, h]

theorem failure?_items {c : Catalog} :
    failure? (Catalog.items s config t c) = none ↔ c.Sound s config t := by
  induction c with
  | nil => simp [items, failure?, Sound]
  | cons g rest ih =>
    rw [Sound, List.forall_mem_cons, ← Sound, ← ih]
    by_cases hruns : g.Runs s config t
    · rw [items_cons hruns, failure?_append, Option.or_eq_none_iff, CatalogGroup.failure?_items]
      simp [hruns]
    · rw [items_cons_of_not_runs hruns]
      simp [hruns]

theorem Sound.append_singleton {before : Catalog} {g : CatalogGroup}
    (hbefore : before.Sound s config t) (hg : g.Sound s.rootPath t) :
    Catalog.Sound s config t (before ++ [g]) :=
  List.forall_mem_append.2 ⟨hbefore, List.forall_mem_singleton.2 fun _ => hg⟩

theorem items_cut {before after : Catalog} {g d : CatalogGroup} {e : ProbeError}
    (hg : g.Runs s config t) (hd : d.Runs s config t) (rest : Items)
    (h : g.items s.rootPath t = d.items s.rootPath t ++ .error e :: rest) :
    ∃ rest, Catalog.items s config t (before ++ g :: after) =
      Catalog.items s config t (before ++ [d]) ++ .error e :: rest := by
  rw [items_append, items_append, items_cons hg, items_cons hd, h]
  refine ⟨rest ++ Catalog.items s config t after, ?_⟩
  simp [items]

theorem FailsAt.items_eq {c d : Catalog} {e : ProbeError} (h : FailsAt s config t c d e) :
    d.Sound s config t ∧ ∃ rest,
      Catalog.items s config t c = Catalog.items s config t d ++ .error e :: rest := by
  cases h with
  | @fragment before after g done more f _ hbefore hruns hsplit hdone hfails =>
    refine ⟨hbefore.append_singleton ⟨hdone, by simp⟩,
      items_cut hruns ⟨hruns.recorded, hruns.enabled, hruns.present⟩
        (more.map (·.item s.rootPath t) ++ g.entries.map (g.emitted s.rootPath t)) ?_⟩
    simp [CatalogGroup.items, hsplit, Fragment.item_eq_error_iff.2 hfails]
  | @entry before after g done more entry _ hbefore hruns hfragments hsplit hdone hfails =>
    refine ⟨hbefore.append_singleton ⟨hfragments, hdone⟩,
      items_cut hruns ⟨hruns.recorded, hruns.enabled, hruns.present⟩
        (more.map (g.emitted s.rootPath t)) ?_⟩
    rw [CatalogGroup.items, hsplit, List.map_append, List.map_cons, hfails, ← List.append_assoc]
    rfl

theorem exists_failsAt {c : Catalog} {e : ProbeError} (before : Catalog)
    (hbefore : before.Sound s config t) (h : failure? (Catalog.items s config t c) = some e) :
    ∃ d, FailsAt s config t (before ++ c) d e := by
  -- The induction moves the groups in which nothing fails, one by one, into `before`.
  induction c generalizing before with
  | nil => cases h
  | cons g rest ih =>
    have hnext (hg : g.Runs s config t → g.Sound s.rootPath t)
        (hrest : failure? (Catalog.items s config t rest) = some e) :
        ∃ d, FailsAt s config t (before ++ g :: rest) d e := by
      rw [List.append_cons]
      exact ih _ (List.forall_mem_append.2 ⟨hbefore, List.forall_mem_singleton.2 hg⟩) hrest
    by_cases hruns : g.Runs s config t
    · rw [items_cons hruns, failure?_append, CatalogGroup.items, failure?_append] at h
      rcases Option.or_eq_some_iff.1 h with h | ⟨hsound, hrest⟩
      · rcases Option.or_eq_some_iff.1 h with hfragment | ⟨hfragments, hentry⟩
        · obtain ⟨done, f, more, hsplit, hdone, hfails⟩ := exists_of_failure?_map hfragment
          exact ⟨_, .fragment hbefore hruns hsplit
            (fun d hd => Fragment.exists_item_eq_ok_iff.1 (hdone d hd))
            (Fragment.item_eq_error_iff.1 hfails)⟩
        · obtain ⟨done, entry, more, hsplit, hdone, hfails⟩ := exists_of_failure?_map hentry
          exact ⟨_, .entry hbefore hruns (CatalogGroup.failure?_fragments.1 hfragments) hsplit hdone
            hfails⟩
      · rw [← failure?_append] at hsound
        exact hnext (fun _ => CatalogGroup.failure?_items.1 hsound) hrest
    · rw [items_cons_of_not_runs hruns] at h
      exact hnext (fun hg => absurd hg hruns) h

theorem run_of_skipped {g : CatalogGroup} (h : ¬ g.Runs s config t) (before after : Catalog)
    (entries : List CatalogEntry) (fragments : List Fragment) :
    Catalog.run s config t (before ++ { g with entries := entries, fragments := fragments } :: after) =
      Catalog.run s config t (before ++ g :: after) := by
  induction before with
  | nil =>
    have hsame : { g with entries := entries, fragments := fragments }.obstacle? s config t =
        g.obstacle? s config t :=
      rfl
    rw [List.nil_append, List.nil_append, run, run, hsame]
    cases hg : g.obstacle? s config t with
    | none => exact absurd (CatalogGroup.obstacle?_eq_none_iff.1 hg) h
    | some why => rfl
  | cons b before ih => rw [List.cons_append, List.cons_append, run, run, ih]

theorem written_items {c : Catalog} (h : c.Sound s config t) :
    written (Catalog.items s config t c) = (c.filter fun g => g.Runs s config t).flatMap fun g =>
      g.entries.flatMap fun e => text (g.emitted s.rootPath t e) := by
  have hsilent (g : CatalogGroup) :
      (g.fragments.map (·.item s.rootPath t)).flatMap text = [] := by
    rw [List.flatMap_map, List.flatMap_eq_nil_iff]
    intro f _
    rw [Fragment.item]
    cases f.extracted s.rootPath t <;> rfl
  rw [written_eq_flatMap (failure?_items.2 h), items, List.flatMap_assoc]
  congr 1
  funext g
  rw [CatalogGroup.items, List.flatMap_append, hsilent, List.nil_append, List.flatMap_map]

end Catalog

def runCatalog (s : Settings) (t : Tree) (marks : List Text) (c : Catalog) : Report :=
  run { s with out := none, catalog := c } t marks

theorem prepare_of_files {path : Text} (hmarker : t.hasContent s.rootPath marker = true)
    (hpath : s.config = some path) (hconfig : t.text? (Path.plain path) = some config)
    (c : Catalog) (out : Option Text) :
    prepare { s with catalog := c, out := out } t = .ok config := by
  have hroot : checkRoot { s with catalog := c, out := out } t = .ok () := if_pos hmarker
  have hread : readConfig { s with catalog := c, out := out } t = .ok config := by
    simp only [readConfig, hpath, Option.map_some, hconfig]
  rw [prepare, hroot]
  exact hread

section

variable {path : Text} (marks : List Text) (hmarker : t.hasContent s.rootPath marker = true)
  (hpath : s.config = some path) (hconfig : t.text? (Path.plain path) = some config)
include hmarker hpath hconfig

theorem runCatalog_eq (c : Catalog) :
    runCatalog s t marks c =
      ⟨(Catalog.run s config t c).output, [], (Catalog.run s config t c).log, t,
        (Catalog.run s config t c).error?⟩ := by
  have hprepare : prepare { s with catalog := c } t = .ok config :=
    prepare_of_files hmarker hpath hconfig c s.out
  have hrun : Catalog.run { s with catalog := c } config t c = Catalog.run s config t c :=
    Catalog.run_congr_settings (by rfl) (by rfl) config t c
  rw [runCatalog, run_without_out (s := { s with catalog := c }) hprepare, runToOutput, hrun]

theorem error_runCatalog (c : Catalog) :
    (runCatalog s t marks c).error = failure? (Catalog.items s config t c) := by
  rw [runCatalog_eq marks hmarker hpath hconfig]
  exact (Catalog.performs_run s config t c).error

theorem output_runCatalog (c : Catalog) :
    (runCatalog s t marks c).output = written (Catalog.items s config t c) := by
  rw [runCatalog_eq marks hmarker hpath hconfig]
  exact (Catalog.performs_run s config t c).output

theorem runCatalog_output_up_to_failure (c : Catalog) :
    ((runCatalog s t marks c).error = none ↔ c.Sound s config t) ∧
      ((runCatalog s t marks c).error = none →
        (runCatalog s t marks c).output = (c.filter fun g => g.Runs s config t).flatMap fun g =>
          g.entries.flatMap fun e => text (g.emitted s.rootPath t e)) ∧
      (∀ e, (runCatalog s t marks c).error = some e ↔ ∃ d, c.FailsAt s config t d e) ∧
      (∀ d e, c.FailsAt s config t d e →
        (runCatalog s t marks c).output = (runCatalog s t marks d).output ∧
          (runCatalog s t marks d).error = none) ∧
      ∀ (before after : Catalog) (g : CatalogGroup) (entries : List CatalogEntry)
        (fragments : List Fragment), c = before ++ g :: after → ¬ g.Runs s config t →
          runCatalog s t marks
              (before ++ { g with entries := entries, fragments := fragments } :: after) =
            runCatalog s t marks c := by
  have herror := error_runCatalog marks hmarker hpath hconfig
  have houtput := output_runCatalog marks hmarker hpath hconfig
  refine ⟨?_, ?_, ?_, ?_, ?_⟩
  · rw [herror, Catalog.failure?_items]
  · intro h
    rw [herror, Catalog.failure?_items] at h
    rw [houtput, Catalog.written_items h]
  · intro e
    rw [herror]
    constructor
    · exact Catalog.exists_failsAt [] (List.forall_mem_nil _)
    · rintro ⟨d, hfails⟩
      obtain ⟨hsound, rest, hitems⟩ := hfails.items_eq
      rw [hitems, failure?_append, Catalog.failure?_items.2 hsound]
      rfl
  · intro d e hfails
    obtain ⟨hsound, rest, hitems⟩ := hfails.items_eq
    rw [houtput, houtput, herror, hitems, written_append (Catalog.failure?_items.2 hsound)]
    exact ⟨List.append_nil _, Catalog.failure?_items.2 hsound⟩
  · rintro before after g entries fragments rfl hskipped
    rw [runCatalog_eq marks hmarker hpath hconfig, runCatalog_eq marks hmarker hpath hconfig,
      Catalog.run_of_skipped hskipped]

end

def disabledGroup : CatalogGroup where
  name := "off".toList
  entries := [{ query := "bogus".toList }]
  option := some "CONFIG_OFF".toList

def kernelGroup (entries : List CatalogEntry) : CatalogGroup where
  name := "core".toList
  fragments := [⟨"k".toList, "macro".toList, "K".toList, [marker]⟩]
  entries := entries

def kernelEntry (fragment : String) : CatalogEntry where
  query := "HAVE_K if macro K in -".toList
  fragment := some fragment.toList

def brokenGroup : CatalogGroup :=
  kernelGroup [kernelEntry "k", kernelEntry "j", kernelEntry "k"]

theorem runCatalog_output_up_to_unknown_fragment :
    let shown := runCatalog { config := some "config".toList } smallTree []
      [disabledGroup, brokenGroup]
    shown.error = some (.unknownFragment "j".toList "HAVE_K if macro K in -".toList) ∧
      shown.output = "#define HAVE_K 1 /* macro K in <k>:1 */\n".toList := by
  let s : Settings := { config := some "config".toList }
  have hdisabled : Catalog.Sound s [] smallTree [disabledGroup] :=
    List.forall_mem_singleton.2 fun hruns => absurd hruns (by decide +kernel)
  have hfragments : ∀ f ∈ brokenGroup.fragments, ∃ text, f.extracted s.rootPath smallTree = .ok text :=
    List.forall_mem_singleton.2 ⟨"#define K".toList, by decide +kernel⟩
  have hdone : ∀ e ∈ [kernelEntry "k"], ∃ text,
      brokenGroup.emitted s.rootPath smallTree e = .ok text :=
    List.forall_mem_singleton.2 ⟨"#define HAVE_K 1 /* macro K in <k>:1 */\n".toList, by decide +kernel⟩
  have hfails : Catalog.FailsAt s [] smallTree ([disabledGroup] ++ brokenGroup :: [])
      ([disabledGroup] ++ [kernelGroup [kernelEntry "k"]])
      (.unknownFragment "j".toList "HAVE_K if macro K in -".toList) :=
    .entry hdisabled (by decide +kernel) hfragments rfl hdone (by decide +kernel)
  have hconfig : smallTree.text? (Path.plain "config".toList) = some [] := by decide +kernel
  obtain ⟨-, -, herror, hcut, -⟩ := runCatalog_output_up_to_failure (s := s) [] (by decide +kernel)
    rfl hconfig ([disabledGroup] ++ brokenGroup :: [])
  refine ⟨(herror _).2 ⟨_, hfails⟩, (hcut _ _ hfails).1.trans ?_⟩
  decide +kernel

end HeaderProbe
