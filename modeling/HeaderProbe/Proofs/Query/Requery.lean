import HeaderProbe.Proofs.Query.Fragment
import HeaderProbe.Proofs.Source.DefineFragment
import HeaderProbe.Proofs.Source.FunctionFragment

namespace HeaderProbe

open Text

theorem find_nil_of_word {name : Text} (hname : IsWord name) :
    findFunction name [] = none ∧ findDefine name [] = none := by
  obtain ⟨c, r, rfl⟩ := List.exists_cons_of_ne_nil hname.1
  exact ⟨rfl, rfl⟩

theorem text_ne_nil {kind : DeclKind} (hk : kind = .function ∨ kind = .define) {name t : Text} {s : Span}
    (hname : IsWord name) (h : kind.find name t = some s) : s.text ≠ [] := by
  rcases hk with rfl | rfl
  · obtain ⟨o, -, -, d, rfl⟩ := exists_of_findFunction_at h
    obtain ⟨c, r, hpiece, -⟩ := d.piece_head hname
    intro hnil
    have hlen := d.length_text hname
    rw [hnil, hpiece] at hlen
    cases hlen
  · obtain ⟨d, rfl⟩ := exists_found_define hname h
    rw [d.text_span, FoundDefine.text]
    intro hnil
    have hlen := d.length_opening
    rw [(List.append_eq_nil_iff.1 hnil).1] at hlen
    obtain ⟨-, -, x, hopening, hx⟩ := (defineShape_eq_some_iff hname).1 d.shape
    obtain rfl : d.shown = x := List.append_cancel_right hx
    have hpos := List.length_pos_of_mem hopening.hash_mem
    rw [← hlen] at hpos
    cases hpos

theorem agrees_of_requeried {kind : DeclKind} (hk : kind = .function ∨ kind = .define) {name : Text}
    (hname : IsWord name) (tree : Tree) (root : Text) (files : List Text) (define label : Text) :
    ∃ L, (extract kind.word name files root tree tree).value = .ok L ∧
      ((L ≠ [] → kind.find name L = some ⟨L, 0, L.length, 1⟩) → ∀ test : Test,
        (Query.evaluate ⟨define, .declaration kind name, test, files.map .path⟩
            root tree tree).value.map Verdict.holds =
          (Query.evaluate ⟨define, .declaration kind name, test, [.literal L label]⟩
            root tree tree).value.map Verdict.holds) := by
  have hread : ∀ s ∈ (files.map FileRef.path).filterMap (FileRef.source? tree root),
      ∃ x, s.read tree = .ok x := by
    intro s hs
    obtain ⟨f, -, hf⟩ := List.mem_filterMap.1 hs
    exact read_of_source? hf
  have hnil : kind.find name [] = none := by
    rcases hk with rfl | rfl
    · exact (find_nil_of_word hname).1
    · exact (find_nil_of_word hname).2
  simp only [value_evaluate_literal, value_extract]
  rcases firstMatch_declaration kind name hread with
    ⟨hempty, hnone⟩ | ⟨s, t, span, hspan, htext, hsome⟩
  · refine ⟨[], hempty, fun _ test => ?_⟩
    rw [value_evaluate, hnone _ rfl, hnil]
    cases test <;> rfl
  · refine ⟨span.text, htext, fun hwhole test => ?_⟩
    rw [value_evaluate, hsome _ rfl, hwhole (text_ne_nil hk hname hspan)]
    exact holds_verdict_congr test s.label label rfl

theorem fragment_requeried_iff {name : Text} (hname : IsWord name) :
    (∀ t s, findFunction name t = some s →
      ∃ o ∈ (Place.start (mask t)).occurrences (callShape name), functionPlace? name t = some o.place ∧
        (functionPlace? name s.text = some (Place.of (mask s.text) (o.place.offset - s.start)) ∧
            findFunction name s.text = some ⟨s.text, 0, s.text.length, 1⟩ ↔
          DeclaredAlone name t s o)) ∧
    (∀ t s, findDefine name t = some s →
      (findDefine name s.text = some ⟨s.text, 0, s.text.length, 1⟩ ↔
          (defineShape name (Place.start (mask s.text))).isSome = true) ∧
        ((mask t).drop s.start = mask (t.drop s.start) →
          findDefine name s.text = some ⟨s.text, 0, s.text.length, 1⟩)) ∧
    ∀ kind : DeclKind, kind = .function ∨ kind = .define →
      ∀ (tree : Tree) (root : Text) (files : List Text) (define label : Text), ∃ L,
        (extract kind.word name files root tree tree).value = .ok L ∧
          ((L ≠ [] → kind.find name L = some ⟨L, 0, L.length, 1⟩) → ∀ test : Test,
            (Query.evaluate ⟨define, .declaration kind name, test, files.map .path⟩
                root tree tree).value.map Verdict.holds =
              (Query.evaluate ⟨define, .declaration kind name, test, [.literal L label]⟩
                root tree tree).value.map Verdict.holds) := by
  refine ⟨fun t s h => ?_, fun t s h => ?_, fun kind hk => agrees_of_requeried hk hname⟩
  · obtain ⟨o, ho, hplace, d, rfl⟩ := exists_of_findFunction_at h
    refine ⟨o, ho, hplace, ?_⟩
    rw [← d.copy_place hname]
    exact d.requeried_iff hname ho hplace
  · obtain ⟨d, rfl⟩ := exists_found_define hname h
    have hiff := d.findDefine_text hname
    rw [d.text_span]
    exact ⟨hiff, fun hstart => hiff.2 (d.defineShape_text hname hstart)⟩

def loopHeader : Text :=
  "#define X do \x7b \x7d while (bar(0))\n".toList ++
    ("static int foo(int a) __cold;\n".toList ++ " /* foo */ # define foo(a) \\\n  bar(a)\n".toList)

theorem loop_header_fragments_requeried :
    findFunction "foo".toList loopHeader = some (Span.cut loopHeader 17 61) ∧
      findFunction "foo".toList (loopHeader.extract 17 61) = some ⟨loopHeader.extract 17 61, 0, 44, 1⟩ ∧
      findDefine "foo".toList loopHeader = some (Span.cut loopHeader 62 99) ∧
      findDefine "foo".toList (loopHeader.extract 62 99) = some ⟨loopHeader.extract 62 99, 0, 37, 1⟩ := by
  have hfunction : findFunction "foo".toList loopHeader = some (Span.cut loopHeader 17 61) := by
    decide +kernel
  have hdefine : findDefine "foo".toList loopHeader = some (Span.cut loopHeader 62 99) := by
    decide +kernel
  have halone : ∀ o ∈ (Place.start (mask loopHeader)).occurrences (callShape "foo".toList),
      functionPlace? "foo".toList loopHeader = some o.place →
        DeclaredAlone "foo".toList loopHeader (Span.cut loopHeader 17 61) o := by
    decide +kernel
  have hname : IsWord "foo".toList := by decide +kernel
  obtain ⟨hfunctions, hdefines, -⟩ := fragment_requeried_iff hname
  obtain ⟨o, ho, hplace, hiff⟩ := hfunctions _ _ hfunction
  exact ⟨hfunction, (hiff.2 (halone o ho hplace)).2, hdefine, (hdefines _ _ hdefine).2 (by decide +kernel)⟩

def typeMacroText : Text :=
  "#define API int\nfoo(int a);".toList

def shadowedText : Text :=
  "#define X \x7b \x7d T foo(1)\nint foo(int a);".toList

def hashText : Text :=
  "int x; # int foo(int a);".toList

def commentedDefine : Text :=
  "/* a\n b */ #define A 1\n".toList

theorem fragments_not_requeried :
    findFunction "foo".toList typeMacroText = some (Span.cut typeMacroText 16 27) ∧
      findFunction "foo".toList (typeMacroText.extract 16 27) = none ∧
      findFunction "foo".toList shadowedText = some (Span.cut shadowedText 14 38) ∧
      (findFunction "foo".toList (shadowedText.extract 14 38)).map Span.text = some "T foo(1)".toList ∧
      findFunction "foo".toList hashText = some (Span.cut hashText 7 24) ∧
      findFunction "foo".toList (hashText.extract 7 24) = none ∧
      findDefine "A".toList commentedDefine = some (Span.cut commentedDefine 5 22) ∧
      findDefine "A".toList (commentedDefine.extract 5 22) = none := by
  decide +kernel

end HeaderProbe
