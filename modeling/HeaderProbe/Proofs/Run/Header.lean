import HeaderProbe.Proofs.Catalog.Defines
import HeaderProbe.Proofs.Mask.Comment
import HeaderProbe.Proofs.Mask.LineBreak
import HeaderProbe.Proofs.Run.Again

namespace HeaderProbe

open Text Items

theorem mask_defineLine_append_of_any (name comment s : Text) :
    mask (defineLine name comment ++ s) = mask (defineLine name comment) ++ mask s :=
  mask_append_of_closed ("#define ".toList ++ name ++ " 1 /* ".toList ++ breakCommentEnd comment) s

theorem mask_defineLines_eq (ds : List (Text × Text)) :
    mask (defineLines ds) = ds.flatMap fun d => mask (defineLine d.1 d.2) := by
  induction ds with
  | nil => rfl
  | cons d ds ih =>
    have hlines : defineLines (d :: ds) = defineLine d.1 d.2 ++ defineLines ds := rfl
    rw [hlines, mask_defineLine_append_of_any, ih, List.flatMap_cons]

theorem Items.exists_written_eq {xs : Items}
    (h : ∀ text, .ok text ∈ xs → ∃ ds, text = defineLines ds) : ∃ ds, written xs = defineLines ds := by
  induction xs with
  | nil => exact ⟨[], rfl⟩
  | cons x xs ih =>
    cases x with
    | error e => exact ⟨[], rfl⟩
    | ok text =>
      obtain ⟨ds, rfl⟩ := h text (List.mem_cons_self ..)
      obtain ⟨es, hes⟩ := ih fun text htext => h text (List.mem_cons_of_mem _ htext)
      exact ⟨ds ++ es, by rw [written, hes, defineLines_append]⟩

theorem CatalogEntry.exists_emitted_eq {e : CatalogEntry} {root text : Text} {t : Tree}
    {literal : Option Text} (h : e.emitted root t literal = .ok text) : ∃ ds, text = defineLines ds := by
  unfold emitted at h
  split at h
  · cases h
  · next q _ =>
    obtain ⟨_, -, rfl⟩ := QueryReader.map_eq_ok_iff.1 h
    exact ⟨_, q.output_generate root t⟩

theorem CatalogGroup.exists_emitted_eq {g : CatalogGroup} {e : CatalogEntry} {root text : Text} {t : Tree}
    (h : g.emitted root t e = .ok text) : ∃ ds, text = defineLines ds := by
  unfold emitted at h
  split at h
  · exact CatalogEntry.exists_emitted_eq h
  · split at h
    · cases h
    · next fragment _ =>
      cases fragment with
      | error e => cases h
      | ok literal => exact CatalogEntry.exists_emitted_eq h

theorem Catalog.exists_output_eq (s : Settings) (config : Text) (t : Tree) (c : Catalog) :
    ∃ ds, (Catalog.run s config t c).output = defineLines ds := by
  rw [(Catalog.performs_run s config t c).output]
  refine exists_written_eq fun text htext => ?_
  obtain ⟨g, -, hg⟩ := List.mem_flatMap.1 htext
  rcases List.mem_append.1 hg with hfragment | hentry
  · obtain ⟨f, -, hf⟩ := List.mem_map.1 hfragment
    obtain ⟨_, -, rfl⟩ := QueryReader.map_eq_ok_iff.1 hf
    exact ⟨[], rfl⟩
  · obtain ⟨e, -, he⟩ := List.mem_map.1 hentry
    exact CatalogGroup.exists_emitted_eq he

def bannerOpening : Text := "/* Autogenerated for KSRC=".toList

def bannerClosing : Text := " via kcompat_generator.py ".toList

def bannerLine (label : Text) : Text :=
  bannerOpening ++ label ++ bannerClosing ++ closingMark

theorem banner_eq (label : Text) : banner label = bannerLine label ++ ['\n'] := by
  have hend : " via kcompat_generator.py */\n".toList = bannerClosing ++ closingMark ++ ['\n'] := by
    decide +kernel
  have hbanner : banner label = bannerOpening ++ label ++ " via kcompat_generator.py */\n".toList := rfl
  rw [hbanner, hend]
  simp only [bannerLine, List.append_assoc]

theorem mask_banner_append (label s : Text) :
    mask (banner label ++ s) = mask (banner label) ++ mask s := by
  have hend : " via kcompat_generator.py */\n".toList =
      " via kcompat_generator.py".toList ++ " */\n".toList := by
    decide +kernel
  have hbanner : banner label = bannerOpening ++ label ++ " via kcompat_generator.py */\n".toList := rfl
  rw [hbanner, hend, ← List.append_assoc]
  exact mask_append_of_closed _ s

theorem hiddenLength_banner {label a : Text} (b : Text)
    (h : label ++ bannerClosing ++ closingMark = a ++ closingMark ++ b)
    (ha : ¬ closingMark <:+: a ++ ['*']) (s : Text) :
    hiddenLength (banner label ++ s) = some (bannerOpening ++ a ++ closingMark).length := by
  obtain ⟨subject, hopen, hfirst⟩ : ∃ subject, bannerOpening = "/*".toList ++ subject ∧
      ¬ closingMark <:+: subject ++ (a ++ ['*']) := by
    refine ⟨" Autogenerated for KSRC=".toList, by decide +kernel, ?_⟩
    rw [closingMark_infix_append_iff, not_or, not_or]
    refine ⟨by decide +kernel, ha, fun hlast => ?_⟩
    exact absurd hlast.1 (by decide +kernel)
  have hsplit : banner label ++ s =
      "/*".toList ++ (subject ++ a ++ closingMark ++ (b ++ ['\n'] ++ s)) :=
    calc banner label ++ s
        = "/*".toList ++ subject ++ (label ++ bannerClosing ++ closingMark) ++ ['\n'] ++ s := by
          rw [banner_eq, bannerLine, hopen]
          simp only [List.append_assoc]
      _ = "/*".toList ++ (subject ++ a ++ closingMark ++ (b ++ ['\n'] ++ s)) := by
          rw [h]
          simp only [List.append_assoc]
  rw [hsplit, hiddenLength_of_first _ (by rwa [List.append_assoc]), hopen]
  simp only [List.append_assoc]

theorem hiddenLength_banner_of_unclosed {label : Text} (h : ¬ closingMark <:+: label) (s : Text) :
    hiddenLength (banner label ++ s) = some (bannerLine label).length := by
  have hfirst : ¬ closingMark <:+: label ++ bannerClosing ++ ['*'] := by
    rw [List.append_assoc, closingMark_infix_append_iff, not_or, not_or]
    refine ⟨h, by decide +kernel, fun hhead => ?_⟩
    exact absurd hhead.2 (by decide +kernel)
  rw [hiddenLength_banner [] (List.append_nil _).symm hfirst, bannerLine]
  simp only [List.append_assoc]

theorem mask_banner_of_unclosed {label : Text} (h : ¬ closingMark <:+: label) :
    mask (banner label) = (banner label).map blankOut := by
  have hlength := hiddenLength_banner_of_unclosed h []
  rw [banner_eq, List.append_nil] at hlength
  rw [banner_eq, mask_append_of_hidden hlength, List.map_append]
  rfl

theorem mask_banner_of_first {a b : Text} (ha : ¬ closingMark <:+: a ++ ['*']) :
    mask (banner (a ++ closingMark ++ b)) =
      (bannerOpening ++ a ++ closingMark).map blankOut ++
        mask (b ++ bannerClosing ++ closingMark ++ ['\n']) := by
  have hsplit : banner (a ++ closingMark ++ b) =
      bannerOpening ++ a ++ closingMark ++ (b ++ bannerClosing ++ closingMark ++ ['\n']) := by
    rw [banner_eq, bannerLine]
    simp only [List.append_assoc]
  have hclosing : a ++ closingMark ++ b ++ bannerClosing ++ closingMark =
      a ++ closingMark ++ (b ++ bannerClosing ++ closingMark) := by
    simp only [List.append_assoc]
  have hlength := hiddenLength_banner _ hclosing ha []
  rw [List.append_nil, hsplit] at hlength
  rw [hsplit, mask_append_of_hidden hlength]

structure HeadedByComment (header lines line : Text) : Prop where
  single : '\n' ∉ line
  first : line ++ ['\n'] <+: header
  opens : "/*".toList <+: line
  complete : hiddenLength header = some line.length
  shown : mask header = (line ++ ['\n']).map blankOut ++ mask lines

theorem headedByComment_banner {label : Text} (hbreak : '\n' ∉ label) (hclose : ¬ closingMark <:+: label)
    (lines : Text) : HeadedByComment (banner label ++ lines) lines (bannerLine label) where
  single := by
    have hopening : '\n' ∉ bannerOpening := by decide +kernel
    have hclosing : '\n' ∉ bannerClosing := by decide +kernel
    simp [bannerLine, hbreak, hopening, hclosing, closingMark]
  first := ⟨lines, by rw [banner_eq]⟩
  opens := ⟨" Autogenerated for KSRC=".toList ++ (label ++ bannerClosing ++ closingMark), by
    have hopen : bannerOpening = "/*".toList ++ " Autogenerated for KSRC=".toList := by decide +kernel
    rw [bannerLine, hopen]
    simp only [List.append_assoc]⟩
  complete := hiddenLength_banner_of_unclosed hclose lines
  shown := by rw [mask_banner_append, mask_banner_of_unclosed hclose, banner_eq]

theorem exists_headedByComment_iff (label lines : Text) :
    (∃ line, HeadedByComment (banner label ++ lines) lines line) ↔
      '\n' ∉ label ∧ ¬ closingMark <:+: label := by
  refine ⟨?_, fun h => ⟨_, headedByComment_banner h.1 h.2 lines⟩⟩
  rintro ⟨line, h⟩
  have hlength := congrArg List.length h.shown
  simp only [length_mask, List.length_append, List.length_map, Nat.add_right_cancel_iff] at hlength
  have hline : line ++ ['\n'] = bannerLine label ++ ['\n'] := by
    rw [← banner_eq]
    refine (List.prefix_of_prefix_length_le h.first ⟨lines, rfl⟩ ?_).eq_of_length ?_
    · rw [List.length_append, hlength]
    · rw [List.length_append, hlength]
  obtain rfl := List.append_cancel_right hline
  refine ⟨fun hbreak => h.single ?_, fun hclose => ?_⟩
  · simp [bannerLine, hbreak]
  · obtain ⟨a, b, rfl, ha⟩ := exists_first_closingMark hclose
    have hcomplete := h.complete
    rw [hiddenLength_banner (b := b ++ bannerClosing ++ closingMark)
      (by simp only [List.append_assoc]) ha, Option.some.injEq] at hcomplete
    simp [bannerLine, closingMark] at hcomplete

variable {s : Settings} {t : Tree} {path : Text} {marks : List Text}

theorem header_shows_catalog_lines (hpath : s.out = some path)
    (hdirectory : s.unitTesting = true → t.directoryAt? path = none)
    (hok : (run s t marks).error = none) :
    ∃ config ds, prepare s t = .ok config ∧ (s.catalog.run s config t).output = defineLines ds ∧
      (run s t marks).tree.bytes? path = some (Utf8.encode (banner s.rootLabel ++ defineLines ds)) ∧
      mask (banner s.rootLabel ++ defineLines ds) =
        mask (banner s.rootLabel) ++ ds.flatMap (fun d => mask (defineLine d.1 d.2)) ∧
      ((∃ line, HeadedByComment (banner s.rootLabel ++ defineLines ds) (defineLines ds) line) ↔
        '\n' ∉ s.rootLabel ∧ ¬ closingMark <:+: s.rootLabel) ∧
      (¬ closingMark <:+: s.rootLabel → mask (banner s.rootLabel) = (banner s.rootLabel).map blankOut) ∧
      ∀ a b, s.rootLabel = a ++ closingMark ++ b → ¬ closingMark <:+: a ++ ['*'] →
        mask (banner s.rootLabel) = (bannerOpening ++ a ++ closingMark).map blankOut ++
          mask (b ++ bannerClosing ++ closingMark ++ ['\n']) := by
  obtain ⟨config, d, out, h⟩ := exists_published hpath hdirectory hok
  obtain ⟨ds, hds⟩ := Catalog.exists_output_eq s config t s.catalog
  refine ⟨config, ds, h.prepared, hds, ?_, ?_, exists_headedByComment_iff _ _,
    mask_banner_of_unclosed, ?_⟩
  · rw [h.run_eq hpath, Settings.written, hds]
    exact Tree.bytes?_set_of_slot h.slot h.replaceable _
  · rw [mask_banner_append, mask_defineLines_eq]
  · rintro a b hlabel ha
    rw [hlabel, mask_banner_of_first ha]

def nestedTree (outer inner : String) : Tree :=
  let root := [outer.toList, inner.toList]
  { entries := [([outer.toList], .directory), (root, .directory),
      (root ++ ["include".toList], .directory),
      (root ++ ["include".toList, "linux".toList], .directory),
      (root ++ ["include".toList, "linux".toList, "kernel.h".toList],
        .file (Utf8.encode "#define K\n".toList)),
      (["config".toList], .file [])] }

def nestedSettings (root : String) : Settings :=
  { smallSettings ["HAVE_K if macro K in include/linux/kernel.h"] with root := some root.toList }

theorem header_hides_root_with_opening_mark :
    ∃ ds line,
      (run (nestedSettings "'/*a") (nestedTree "'" "*a") ["0".toList]).tree.bytes? "defs.h".toList =
        some (Utf8.encode (banner "'/*a".toList ++ defineLines ds)) ∧
      HeadedByComment (banner "'/*a".toList ++ defineLines ds) (defineLines ds) line := by
  have hok : (run (nestedSettings "'/*a") (nestedTree "'" "*a") ["0".toList]).error = none := by
    decide +kernel
  have hpath : (nestedSettings "'/*a").out = some "defs.h".toList := rfl
  obtain ⟨_, ds, -, -, hbytes, -, hheaded, -⟩ := header_shows_catalog_lines hpath (by decide) hok
  have hlabel : (nestedSettings "'/*a").rootLabel = "'/*a".toList := by decide +kernel
  rw [hlabel] at hbytes hheaded
  obtain ⟨line, hline⟩ := hheaded.2 (by decide +kernel)
  exact ⟨ds, line, hbytes, hline⟩

theorem header_shows_root_behind_closing_mark :
    let r := run (nestedSettings "a*/b") (nestedTree "a*" "b") ["0".toList]
    let line := "#define HAVE_K 1 /* macro K in include/linux/kernel.h:1 */\n".toList
    r.error = none ∧
      r.tree.bytes? "defs.h".toList = some (Utf8.encode (banner "a*/b".toList ++ line)) ∧
      (¬ ∃ first, HeadedByComment (banner "a*/b".toList ++ line) line first) ∧
      mask (banner "a*/b".toList ++ line) =
        List.replicate 29 ' ' ++ "b via kcompat_generator.py */\n".toList ++ mask line := by
  refine ⟨by decide +kernel, by decide +kernel, fun hheaded => ?_, by decide +kernel⟩
  exact absurd ((exists_headedByComment_iff _ _).1 hheaded).2 (by decide +kernel)

end HeaderProbe
