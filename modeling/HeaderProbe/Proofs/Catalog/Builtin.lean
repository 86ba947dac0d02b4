import HeaderProbe.Proofs.Catalog.Implication

namespace HeaderProbe

namespace Catalog

theorem builtin_checked :
    builtin.WellFormed ∧ builtin.defines.Nodup ∧
      (∀ g ∈ builtin, ∀ e ∈ g.entries, ∀ m ∈ e.define?, "HAVE_DEVLINK_".toList <+: m →
        g.option = some "CONFIG_NET_DEVLINK".toList) ∧
      builtin.Implies "HAVE_DEVLINK_FLASH_UPDATE_PARAMS_FW".toList
        "HAVE_DEVLINK_FLASH_UPDATE_PARAMS".toList ∧
      builtin.Implies "HAVE_DEVLINK_REGION_OPS_SNAPSHOT_OPS".toList
        "HAVE_DEVLINK_REGION_OPS_SNAPSHOT".toList ∧
      builtin.Implies "HAVE_DEVLINK_REGION_OPS_SNAPSHOT".toList "HAVE_DEVLINK_REGIONS".toList := by
  unfold builtin devlinkGroup netDeviceGroup flowOffloadGroup flowDissectorGroup otherGroup entryIn entryOf
    devlinkHeader userDevlinkHeader netDeviceHeader flowOffloadHeader flowDissectorHeader flowKeysHeader
    etherDeviceHeader
  -- The characters of a literal are taken from the literal, not decoded from its bytes.
  repeat rw [String.toList_ofList]
  decide +kernel

variable {s : Settings} {config path : Text} {t : Tree}

theorem WellFormed.configEnabled {c : Catalog} (h : c.WellFormed) {start option m : Text}
    (hoption : option ≠ [])
    (hgated : ∀ g ∈ c, ∀ e ∈ g.entries, ∀ m ∈ e.define?, start <+: m → g.option = some option)
    (hm : m ∈ (c.definitions s config t).map Prod.fst) (hstart : start <+: m) :
    configEnabled config option = true := by
  obtain ⟨g, hg, hruns, e, he, hdefine, -⟩ := h.mem_definitions_iff.1 hm
  exact hruns.enabled option (hgated g hg e he m hdefine hstart) hoption

section

variable {c : Catalog} {file : Text} {place : Location} {marks : List Text} {d : Draft t}

theorem WellFormed.run_to_file (h : c.WellFormed)
    (hprepare : prepare { s with catalog := c, out := some file } t = .ok config)
    (hplace : t.slot file = .ok place) (hfile : t.entry? place ≠ some .directory)
    (hdraft : t.draft file marks = .ok d)
    (hunread : ∀ p ∈ c.files, d.made.locate (Path.join s.rootPath p) ≠ .ok d.location) :
    (HeaderProbe.run { s with catalog := c, out := some file } t marks).error = none ∧
      Tree.entry? (HeaderProbe.run { s with catalog := c, out := some file } t marks).tree place =
        some (.file (Utf8.encode (banner s.rootLabel ++ defineLines (c.definitions s config t)))) := by
  have hrun : Catalog.run { s with catalog := c, out := some file } config d.made c =
      Catalog.run s config t c :=
    (Catalog.run_congr_settings (by rfl) (by rfl) config d.made c).trans
      (Catalog.run_congr (Draft.alike hunread) config)
  obtain ⟨hnone, houtput⟩ := h.run_eq s config t
  have hvalue : (Catalog.run s config t c).value = .ok () := by
    cases hv : (Catalog.run s config t c).value with
    | ok _ => rfl
    | error e => simp [Outcome.error?, hv] at hnone
  obtain ⟨herror, htree⟩ := runToDraft_of_ok (s := { s with catalog := c, out := some file })
    hdraft hplace hfile (hrun ▸ hvalue)
  rw [run_to_draft (by rfl) hprepare hdraft]
  refine ⟨herror, ?_⟩
  obtain ⟨directory, name, -, rfl⟩ := Tree.exists_of_slot hplace
  rw [htree, hrun, houtput, Tree.entry?_set_self (by simp)]
  rfl

end

end Catalog

theorem builtin_runs_consistently {s : Settings} {config path : Text} {t : Tree} (marks : List Text)
    (hmarker : t.hasContent s.rootPath marker = true) (hpath : s.config = some path)
    (hconfig : t.text? (Path.plain path) = some config) :
    ∃ defined : List (Text × Text),
      let names := defined.map Prod.fst
      let shown := runCatalog s t marks .builtin
      shown.error = none ∧ shown.output = defineLines defined ∧
        names.Sublist Catalog.builtin.defines ∧ names.Nodup ∧
        (∀ m ∈ names, "HAVE_DEVLINK_".toList <+: m →
          configEnabled config "CONFIG_NET_DEVLINK".toList = true) ∧
        ("HAVE_DEVLINK_FLASH_UPDATE_PARAMS_FW".toList ∈ names →
          "HAVE_DEVLINK_FLASH_UPDATE_PARAMS".toList ∈ names) ∧
        ("HAVE_DEVLINK_REGION_OPS_SNAPSHOT_OPS".toList ∈ names →
          "HAVE_DEVLINK_REGION_OPS_SNAPSHOT".toList ∈ names) ∧
        ("HAVE_DEVLINK_REGION_OPS_SNAPSHOT".toList ∈ names →
          "HAVE_DEVLINK_REGIONS".toList ∈ names) ∧
        ∀ (file : Text) (place : Location) (d : Draft t), t.slot file = .ok place →
          t.entry? place ≠ some .directory → t.draft file marks = .ok d →
          (∀ p ∈ Catalog.builtin.files, d.made.locate (Path.join s.rootPath p) ≠ .ok d.location) →
          let written := run { s with catalog := .builtin, out := some file } t marks
          written.error = none ∧ written.tree.entry? place =
            some (.file (Utf8.encode (banner s.rootLabel ++ defineLines defined))) := by
  obtain ⟨hwell, hnodup, hgated, hparams, hsnapshot, hregions⟩ := Catalog.builtin_checked
  obtain ⟨herror, houtput⟩ := hwell.run_eq s config t
  have hsublist := hwell.sublist_defines s config t
  refine ⟨Catalog.builtin.definitions s config t, ?_, ?_, hsublist, hnodup.sublist hsublist,
    fun m => hwell.configEnabled (by decide) hgated, hwell.mem_of_implies hparams,
    hwell.mem_of_implies hsnapshot, hwell.mem_of_implies hregions,
    fun file place d hplace hfile hdraft hunread => ?_⟩
  · rw [runCatalog_eq marks hmarker hpath hconfig]
    exact herror
  · rw [runCatalog_eq marks hmarker hpath hconfig]
    exact houtput
  · exact hwell.run_to_file (prepare_of_files hmarker hpath hconfig _ _) hplace hfile hdraft
      hunread

def regionTree : Tree where
  entries := [(["include".toList], .directory),
    (["include".toList, "linux".toList], .directory),
    (["include".toList, "net".toList], .directory),
    (["include".toList, "linux".toList, "kernel.h".toList], .file (Utf8.encode "#define K\n".toList)),
    (["include".toList, "net".toList, "devlink.h".toList], .file (Utf8.encode
      ("/* struct devlink_region_ops \x7b\x7d; */\n".toList ++
        "struct devlink_region_ops \x7b int (*snapshot)(void); \x7d;\n".toList))),
    (["config".toList], .file (Utf8.encode "CONFIG_NET_DEVLINK=y\n".toList))]

theorem builtin_runs_consistently_on_regions :
    let shown := runCatalog { config := some "config".toList } regionTree [] .builtin
    shown.error = none ∧ shown.output =
      "#define HAVE_DEVLINK_REGION_OPS_SNAPSHOT 1 /* fun snapshot in <REGION_OPS>:1 */\n".toList ++
        "#define HAVE_DEVLINK_REGIONS 1 /* struct devlink_region_ops in <REGION_OPS>:1 */\n".toList ++
        "#define NEED_ETH_HW_ADDR_SET 1 /* fun eth_hw_addr_set absent in ".toList ++
        "include/linux/etherdevice.h */\n".toList := by
  have hconfig : regionTree.text? (Path.plain "config".toList) =
      some "CONFIG_NET_DEVLINK=y\n".toList := by
    decide +kernel
  obtain ⟨_, herror, -⟩ :=
    builtin_runs_consistently (s := { config := some "config".toList }) [] (by decide +kernel) rfl hconfig
  refine ⟨herror, ?_⟩
  unfold regionTree Catalog.builtin devlinkGroup netDeviceGroup flowOffloadGroup flowDissectorGroup
    otherGroup entryIn entryOf devlinkHeader userDevlinkHeader netDeviceHeader flowOffloadHeader
    flowDissectorHeader flowKeysHeader etherDeviceHeader
  repeat rw [String.toList_ofList]
  decide +kernel

end HeaderProbe
