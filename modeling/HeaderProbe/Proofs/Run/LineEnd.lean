import HeaderProbe.Proofs.Run
import HeaderProbe.Proofs.Tree.LineEnd

namespace HeaderProbe

variable {s : Settings} {t u : Tree} {config path : Text}

namespace Tree.DifferInReturns

theorem checkRoot (h : DifferInReturns t u) (hnames : ∀ l, t.names l = u.names l) :
    checkRoot s t = checkRoot s u := by
  simp only [HeaderProbe.checkRoot, h.hasContent, h.isTooLong, h.locate, h.directory_iff, hnames]

theorem readConfig (h : DifferInReturns t u) : readConfig s t = readConfig s u := by
  simp only [HeaderProbe.readConfig, h.text?, h.isTooLong]

theorem catalog_run (h : DifferInReturns t u) (c : Catalog) :
    Catalog.run s config t c = Catalog.run s config u c :=
  Catalog.run_congr (h.readAlike s.rootPath c.files) config

end Tree.DifferInReturns

structure Report.Agree (r r' : Report) : Prop where
  error : r.error = r'.error
  output : r.output = r'.output
  echo : r.echo = r'.echo
  log : r.log = r'.log

theorem echo_decode_congr {b b' : List UInt8}
    (h : Text.unifyLineEnds (Utf8.decode b) = Text.unifyLineEnds (Utf8.decode b')) :
    echo (Utf8.decode b) = echo (Utf8.decode b') := by
  rw [echo, echo, h]

theorem publish_agree {d : Draft t} {d' : Draft u} (hl : d.location = d'.location)
    (h : Tree.DifferInReturns t u) (path content : Text) :
    (∃ e, d.publish path content = .error e ∧ d'.publish path content = .error e) ∨
      ∃ v v', d.publish path content = .ok v ∧ d'.publish path content = .ok v' ∧
        Tree.DifferInReturns v v' := by
  have hset : Tree.DifferInReturns
      (d.made.set d.location (.file (Utf8.encode content)))
      (d'.made.set d'.location (.file (Utf8.encode content))) := by
    rw [Draft.made, Draft.made, hl]
    exact (h.set _ (.inl rfl)).set _ (.inl rfl)
  rw [Draft.publish, Draft.publish, hl]
  rw [hl] at hset
  obtain ⟨fault, ht, hu⟩ | ⟨v, v', ht, hu, hv⟩ := hset.rename d'.location path
  · exact .inl ⟨_, by rw [ht], by rw [hu]⟩
  · exact .inr ⟨v, v', by rw [ht], by rw [hu], hv⟩

theorem runToDraft_agree {d : Draft t} {d' : Draft u} (hl : d.location = d'.location)
    (h : Tree.DifferInReturns t u) :
    (runToDraft s config path d).Agree (runToDraft s config path d') := by
  have hmade : Tree.DifferInReturns d.made d'.made := by
    rw [Draft.made, Draft.made, hl]
    exact h.set _ (.inl rfl)
  unfold runToDraft
  rw [hmade.catalog_run]
  dsimp only
  cases (s.catalog.run s config d'.made).value with
  | error e => exact ⟨rfl, rfl, rfl, rfl⟩
  | ok _ =>
    obtain ⟨e, ht, hu⟩ | ⟨v, v', ht, hu, hv⟩ := publish_agree hl h path
      (banner s.rootLabel ++ (s.catalog.run s config d'.made).output)
    · simp only [Except.bind, ht, hu]
      exact ⟨rfl, rfl, rfl, rfl⟩
    · simp only [Except.bind, ht, hu]
      split
      · exact ⟨rfl, rfl, rfl, rfl⟩
      · have hleft := hv.unlink d.location
        rw [hl] at hleft ⊢
        obtain heq | ⟨content, hcontent, hbytes, hbytes'⟩ := hleft.bytes? path
        · rw [heq]
          split <;> exact ⟨rfl, rfl, rfl, rfl⟩
        · rw [hbytes, hbytes']
          exact ⟨rfl, rfl,
            echo_decode_congr (Utf8.unifyLineEnds_decode_withReturns hcontent).symm, rfl⟩

theorem run_agree (h : Tree.DifferInReturns t u) (hnames : ∀ l, t.names l = u.names l)
    (marks : List Text) : (run s t marks).Agree (run s u marks) := by
  have hprepare : prepare s t = prepare s u := by
    rw [prepare, prepare, h.checkRoot hnames, h.readConfig]
  unfold run
  rw [hprepare]
  cases prepare s u with
  | error e => exact ⟨rfl, rfl, rfl, rfl⟩
  | ok config =>
    cases s.out with
    | none =>
      dsimp only [runToOutput]
      rw [h.catalog_run]
      exact ⟨rfl, rfl, rfl, rfl⟩
    | some path =>
      have hdraft := h.draft path marks
      dsimp only
      cases ht : t.draft path marks with
      | error fault =>
        cases hu : u.draft path marks with
        | error fault' =>
          simp only [ht, hu, Except.map, Except.error.injEq] at hdraft
          subst hdraft
          exact ⟨rfl, rfl, rfl, rfl⟩
        | ok d' => simp [ht, hu, Except.map] at hdraft
      | ok d =>
        cases hu : u.draft path marks with
        | error fault' => simp [ht, hu, Except.map] at hdraft
        | ok d' =>
          simp only [ht, hu, Except.map, Except.ok.injEq] at hdraft
          exact runToDraft_agree hdraft h

theorem run_withReturns {places : List Location}
    (h : ∀ l ∈ places, ∀ content, t.entry? l = some (.file content) → 13 ∉ content)
    (s : Settings) (marks : List Text) :
    (run s (t.withReturns places) marks).error = (run s t marks).error ∧
      (run s (t.withReturns places) marks).output = (run s t marks).output ∧
      (run s (t.withReturns places) marks).echo = (run s t marks).echo ∧
      (run s (t.withReturns places) marks).log = (run s t marks).log := by
  have hagree : (run s t marks).Agree (run s (t.withReturns places) marks) :=
    run_agree (Tree.differInReturns_withReturns h) (fun l => (Tree.names_withReturns t places l).symm)
      marks
  exact ⟨hagree.error.symm, hagree.output.symm, hagree.echo.symm, hagree.log.symm⟩

def tornHeader : List UInt8 :=
  Utf8.encode "#define A 1\n/* ".toList ++ [0xe2, 0x82, 0x0a, 0xf0, 0x9f, 0x0a, 0xff] ++
    Utf8.encode "*/ #define B \\\n 2\n#define K 3\n".toList

def tornConfig : List UInt8 :=
  Utf8.encode "CONFIG_A=y\nCONFIG_B=m\n".toList

def tornHeaderPlace : Location := ["include".toList, "linux".toList, "kernel.h".toList]

def tornConfigPlace : Location := ["config".toList]

def tornTree : Tree where
  entries := [(["include".toList], .directory),
    (["include".toList, "linux".toList], .directory),
    (tornHeaderPlace, .file tornHeader),
    (tornConfigPlace, .file tornConfig)]

def tornSettings : Settings where
  config := some "config".toList
  catalog := [{
    name := "core".toList
    entries := [{ query := "HAVE_K if macro K in include/linux/kernel.h".toList }]
    option := some "CONFIG_A".toList }]

theorem run_withReturns_on_torn_lines :
    (run tornSettings (tornTree.withReturns [tornHeaderPlace, tornConfigPlace])).error = none ∧
      (run tornSettings (tornTree.withReturns [tornHeaderPlace, tornConfigPlace])).output =
        "#define HAVE_K 1 /* macro K in include/linux/kernel.h:6 */\n".toList := by
  have hheader : tornTree.entry? tornHeaderPlace = some (.file tornHeader) := by decide +kernel
  have hconfig : tornTree.entry? tornConfigPlace = some (.file tornConfig) := by decide +kernel
  have hplaces : ∀ l ∈ [tornHeaderPlace, tornConfigPlace], ∀ content,
      tornTree.entry? l = some (.file content) → 13 ∉ content := by
    rw [List.forall_mem_cons, List.forall_mem_singleton, hheader, hconfig]
    constructor
    · rintro content ⟨⟩
      decide +kernel
    · rintro content ⟨⟩
      decide +kernel
  have herror : (run tornSettings tornTree).error = none := by decide +kernel
  have houtput : (run tornSettings tornTree).output =
      "#define HAVE_K 1 /* macro K in include/linux/kernel.h:6 */\n".toList := by
    decide +kernel
  obtain ⟨hsame, hshown, -, -⟩ := run_withReturns hplaces tornSettings Draft.marks
  exact ⟨hsame.trans herror, hshown.trans houtput⟩

end HeaderProbe
