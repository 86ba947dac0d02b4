import HeaderProbe.Config
import HeaderProbe.Proofs.Text.Blank
import Mathlib.Data.Option.Basic

namespace HeaderProbe

open Text

inductive Switch (option : Text) : Text → Prop
  | assigned : Switch option (option ++ "=y".toList)
  | defined {gap gap' : Text} (hgap : AllBlank gap) (hne : gap ≠ []) (hgap' : AllBlank gap')
      (hne' : gap' ≠ []) : Switch option ("#define".toList ++ (gap ++ (option ++ (gap' ++ ['1']))))

def EnablesLine (option line : Text) : Prop :=
  Switch option (trimEnd line)

def BlankToBreak (s : Text) : Prop :=
  AllBlank (s.takeWhile (· ≠ '\n'))

structure Enables (option before u after : Text) : Prop where
  starts : before.getLast?.all (· == '\n') = true
  switch : Switch option u
  ends : BlankToBreak after

/-- Whether the line break between two texts stands inside a switch of an option. -/
def Spread (option c₁ c₂ : Text) : Prop :=
  ∃ before u v after, c₁ = before ++ u ∧ c₂ = v ++ after ∧ Enables option before (u ++ '\n' :: v) after

theorem onlyBlanksAhead_iff {s : Text} : onlyBlanksAhead s = true ↔ BlankToBreak s := by
  have hbreak : isBlank '\n' = true := by decide
  induction s with
  | nil => simp [onlyBlanksAhead, BlankToBreak, skipBlanks, allBlank_nil]
  | cons c s ih =>
    unfold onlyBlanksAhead BlankToBreak at ih ⊢
    by_cases hn : c = '\n'
    · subst hn
      simp [hbreak, allBlank_nil]
    · have hn' : '\n' ≠ c := fun h => hn h.symm
      cases hc : isBlank c with
      | true => simpa [skipBlanks, hc, hn, hn', AllBlank] using ih
      | false => simp [skipBlanks, hc, hn, AllBlank]

theorem blankToBreak_append_break {s r : Text} :
    BlankToBreak (s ++ '\n' :: r) ↔ BlankToBreak s := by
  unfold BlankToBreak
  induction s with
  | nil => simp
  | cons c s ih =>
    by_cases hc : c = '\n'
    · simp [hc]
    · simpa [hc, AllBlank] using fun _ => ih

theorem blankToBreak_iff_of_notMem {s : Text} (hs : '\n' ∉ s) : BlankToBreak s ↔ AllBlank s := by
  have hall : s.takeWhile (· ≠ '\n') = s :=
    List.takeWhile_eq_self_iff.2 fun c hc => decide_eq_true fun h => hs (h ▸ hc)
  rw [BlankToBreak, hall]

theorem isAssignment_iff {option s : Text} :
    isAssignment option s = true ↔ ∃ r, s = option ++ "=y".toList ++ r ∧ BlankToBreak r := by
  unfold isAssignment
  split
  · next r h =>
    rw [List.isPrefixOf?_eq_some_iff_append_eq] at h
    subst h
    rw [onlyBlanksAhead_iff]
    simp
  · next hother =>
    refine iff_of_false (by simp) ?_
    rintro ⟨r, rfl, -⟩
    exact hother r (List.isPrefixOf?_eq_some_iff_append_eq.2 (by simp))

theorem pastBlanks_some_eq_iff {s r : Text} {c : Char} (hc : isBlank c = false) :
    pastBlanks some s = some (c :: r) ↔ ∃ w, w ≠ [] ∧ AllBlank w ∧ s = w ++ c :: r := by
  constructor
  · intro h
    obtain ⟨d, w, r', rfl, hw, hr⟩ := exists_of_pastBlanks h
    exact ⟨d :: w, List.cons_ne_nil d w, hw, by rw [Option.some.inj hr]⟩
  · rintro ⟨w, hne, hw, rfl⟩
    have hstop : pastBlanks some (c :: r) = none := by simp [pastBlanks, hc]
    induction w with
    | nil => exact absurd rfl hne
    | cons d w ih =>
      obtain ⟨hd, hw⟩ := List.forall_mem_cons.1 hw
      rw [List.cons_append, pastBlanks, if_pos hd]
      cases w with
      | nil => rw [List.nil_append, hstop, Option.none_or]
      | cons e w => rw [ih (List.cons_ne_nil e w) hw, Option.some_or]

theorem isDefinition_iff {option s : Text} :
    isDefinition option s = true ↔
      ∃ gap gap' r, AllBlank gap ∧ gap ≠ [] ∧ AllBlank gap' ∧ gap' ≠ [] ∧
        s = "#define".toList ++ (gap ++ (option ++ (gap' ++ ['1']))) ++ r ∧ BlankToBreak r := by
  unfold isDefinition
  split
  · next h =>
    refine iff_of_false (by simp) ?_
    rintro ⟨gap, gap', r, -, -, -, -, rfl, -⟩
    rw [List.append_assoc, List.isPrefixOf?_eq_some_iff_append_eq.2 rfl] at h
    cases h
  · next s' h =>
    rw [List.isPrefixOf?_eq_some_iff_append_eq] at h
    subst h
    rw [isSome_pastBlanks_iff]
    constructor
    · rintro ⟨gap, rest, hne, hgap, rfl, hrest⟩
      obtain ⟨_, hsome⟩ := Option.isSome_iff_exists.1 hrest
      obtain ⟨_, hread, hend⟩ := Option.bind_eq_some_iff.1 hsome
      obtain ⟨_, hbehind, hvalue⟩ := Option.bind_eq_some_iff.1 hread
      obtain rfl := List.isPrefixOf?_eq_some_iff_append_eq.1 hbehind
      split at hend
      · next r =>
        obtain ⟨gap', hne', hgap', rfl⟩ := (pastBlanks_some_eq_iff (by decide)).1 hvalue
        have hr := onlyBlanksAhead_iff.1 ((Option.guard_eq_some' _).1 hend)
        exact ⟨gap, gap', r, hgap, hne, hgap', hne', by simp, hr⟩
      · cases hend
    · rintro ⟨gap, gap', r, hgap, hne, hgap', hne', hs, hr⟩
      rw [List.append_assoc, List.append_cancel_left_eq] at hs
      subst hs
      have hbehind : option.isPrefixOf? (option ++ (gap' ++ ['1']) ++ r) = some (gap' ++ '1' :: r) :=
        List.isPrefixOf?_eq_some_iff_append_eq.2 (by simp)
      have hvalue : pastBlanks some (gap' ++ '1' :: r) = some ('1' :: r) :=
        (pastBlanks_some_eq_iff (by decide)).2 ⟨gap', hne', hgap', rfl⟩
      refine ⟨gap, _, hne, hgap, List.append_assoc .., Option.isSome_iff_exists.2 ⟨(), ?_⟩⟩
      refine Option.bind_eq_some_iff.2 ⟨_, Option.bind_eq_some_iff.2 ⟨_, hbehind, hvalue⟩, ?_⟩
      exact (Option.guard_eq_some' _).2 (onlyBlanksAhead_iff.2 hr)

theorem here_iff {option b s : Text} :
    configEnabled.here option b s = true ↔
      ∃ u after, s = u ++ after ∧ Enables option b.reverse u after := by
  rw [configEnabled.here, Bool.and_eq_true, Bool.or_eq_true, isAssignment_iff, isDefinition_iff,
    Place.atLineStart, ← List.getLast?_reverse]
  constructor
  · rintro ⟨hstart, ⟨r, rfl, hr⟩ | ⟨gap, gap', r, hgap, hne, hgap', hne', rfl, hr⟩⟩
    · exact ⟨_, r, rfl, hstart, .assigned, hr⟩
    · exact ⟨_, r, rfl, hstart, .defined hgap hne hgap' hne', hr⟩
  · rintro ⟨u, after, rfl, hstart, hu, hafter⟩
    refine ⟨hstart, ?_⟩
    cases hu with
    | assigned => exact .inl ⟨after, rfl, hafter⟩
    | @defined gap gap' hgap hne hgap' hne' =>
      exact .inr ⟨gap, gap', after, hgap, hne, hgap', hne', rfl, hafter⟩

theorem configEnabled_go_iff {option b s : Text} :
    configEnabled.go option b s = true ↔
      ∃ v w, s = v ++ w ∧ configEnabled.here option (v.reverse ++ b) w = true := by
  induction s generalizing b with
  | nil => simp [configEnabled.go]
  | cons c s ih =>
    rw [configEnabled.go, Bool.or_eq_true, ih]
    constructor
    · rintro (h | ⟨v, w, rfl, h⟩)
      · exact ⟨[], c :: s, rfl, h⟩
      · exact ⟨c :: v, w, rfl, by simpa using h⟩
    · rintro ⟨v, w, hs, h⟩
      cases v with
      | nil =>
        subst hs
        exact .inl h
      | cons d v =>
        obtain ⟨rfl, rfl⟩ := List.cons.inj hs
        exact .inr ⟨v, w, rfl, by simpa using h⟩

theorem configEnabled_iff_exists {config option : Text} :
    configEnabled config option = true ↔
      ∃ before u after, config = before ++ (u ++ after) ∧ Enables option before u after := by
  rw [configEnabled, configEnabled_go_iff]
  simp only [here_iff, List.append_nil, List.reverse_reverse]
  constructor
  · rintro ⟨v, _, rfl, u, after, rfl, h⟩
    exact ⟨v, u, after, rfl, h⟩
  · rintro ⟨before, u, after, rfl, h⟩
    exact ⟨before, _, rfl, u, after, rfl, h⟩

theorem Switch.getLast? {option u : Text} (h : Switch option u) :
    ∃ c, u.getLast? = some c ∧ isBlank c = false := by
  cases h with
  | assigned => exact ⟨'y', by simp, by decide⟩
  | defined _ _ _ _ => exact ⟨'1', by simp only [← List.append_assoc, List.getLast?_concat], by decide⟩

theorem Switch.ne_nil {option u : Text} (h : Switch option u) : u ≠ [] := by
  obtain ⟨c, hc, -⟩ := h.getLast?
  rintro rfl
  cases hc

theorem configEnabled_line {option line : Text} (hline : '\n' ∉ line) :
    configEnabled line option = true ↔ EnablesLine option line := by
  rw [configEnabled_iff_exists, EnablesLine]
  constructor
  · rintro ⟨before, u, after, rfl, hstart, hu, hafter⟩
    obtain rfl : before = [] := by
      by_contra hne
      obtain ⟨c, hc⟩ := Option.ne_none_iff_exists'.1 (mt List.getLast?_eq_none_iff.1 hne)
      rw [hc, Option.all_some, beq_iff_eq] at hstart
      exact hline (List.mem_append_left _ (List.mem_of_getLast? (hstart ▸ hc)))
    have hblank := (blankToBreak_iff_of_notMem fun h => hline (by simp [h])).1 hafter
    obtain ⟨c, hc, hcb⟩ := hu.getLast?
    rwa [List.nil_append, trimEnd_append hc hcb hblank]
  · intro h
    obtain ⟨gap, hgap, hsplit⟩ := exists_of_trimEnd line
    have hbreak : '\n' ∉ gap := fun hmem => hline (by rw [hsplit]; exact List.mem_append_right _ hmem)
    exact ⟨[], _, gap, hsplit, rfl, h, (blankToBreak_iff_of_notMem hbreak).2 hgap⟩

theorem Enables.append {option before u after : Text} (h : Enables option before u after) (c₁ : Text) :
    Enables option (c₁ ++ '\n' :: before) u after where
  starts := by
    cases before with
    | nil => rw [List.getLast?_concat]; rfl
    | cons c b =>
      rw [List.append_cons, List.getLast?_append_of_ne_nil _ (List.cons_ne_nil c b)]
      exact h.starts
  switch := h.switch
  ends := h.ends

theorem Enables.of_append {option before c₁ u after : Text}
    (h : Enables option (c₁ ++ '\n' :: before) u after) : Enables option before u after where
  starts := by
    cases before with
    | nil => rfl
    | cons c b =>
      have hstart := h.starts
      rwa [List.append_cons, List.getLast?_append_of_ne_nil _ (List.cons_ne_nil c b)] at hstart
  switch := h.switch
  ends := h.ends

theorem configEnabled_append_break (option c₁ c₂ : Text) :
    configEnabled (c₁ ++ '\n' :: c₂) option = true ↔
      configEnabled c₁ option = true ∨ configEnabled c₂ option = true ∨ Spread option c₁ c₂ := by
  simp only [configEnabled_iff_exists]
  constructor
  · rintro ⟨before, u, after, hsplit, h⟩
    rcases List.append_eq_append_iff.1 hsplit with ⟨x, rfl, hx⟩ | ⟨x, rfl, hx⟩
    · cases x with
      | nil =>
        obtain ⟨c, v, rfl⟩ := List.exists_cons_of_ne_nil h.switch.ne_nil
        obtain ⟨rfl, rfl⟩ := List.cons.inj hx
        rw [List.append_nil] at h
        exact .inr (.inr ⟨c₁, [], v, after, (List.append_nil c₁).symm, rfl, h⟩)
      | cons c x =>
        obtain ⟨rfl, rfl⟩ := List.cons.inj hx
        exact .inr (.inl ⟨x, u, after, rfl, h.of_append⟩)
    · rcases List.append_eq_append_iff.1 hx with ⟨y, rfl, rfl⟩ | ⟨y, rfl, hy⟩
      · exact .inl ⟨before, u, y, rfl, h.starts, h.switch, blankToBreak_append_break.1 h.ends⟩
      · cases y with
        | nil =>
          subst hy
          rw [List.append_nil] at h
          exact .inl ⟨before, x, [], by simp, h.starts, h.switch, allBlank_nil⟩
        | cons c v =>
          obtain ⟨rfl, rfl⟩ := List.cons.inj hy
          exact .inr (.inr ⟨before, x, v, after, rfl, rfl, h⟩)
  · rintro (⟨before, u, after, rfl, h⟩ | ⟨before, u, after, rfl, h⟩ | ⟨before, u, v, after, rfl, rfl, h⟩)
    · exact ⟨before, u, after ++ '\n' :: c₂, by simp, h.starts, h.switch,
        blankToBreak_append_break.2 h.ends⟩
    · exact ⟨c₁ ++ '\n' :: before, u, after, by simp, h.append c₁⟩
    · exact ⟨before, _, after, by simp, h⟩

theorem Spread.append {option c₁ c₂ : Text} (h : Spread option c₁ c₂) (line : Text) :
    Spread option (line ++ '\n' :: c₁) c₂ := by
  obtain ⟨before, u, v, after, rfl, rfl, h⟩ := h
  exact ⟨line ++ '\n' :: before, u, v, after, by simp, rfl, h.append line⟩

theorem line_induction {P : Text → Prop} (last : ∀ line, '\n' ∉ line → P line)
    (cons : ∀ line rest, '\n' ∉ line → P rest → P (line ++ '\n' :: rest)) (s : Text) : P s := by
  induction hn : s.length using Nat.strong_induction_on generalizing s with
  | _ n ih =>
    by_cases hbreak : '\n' ∈ s
    · obtain ⟨line, rest, rfl, hline⟩ := List.eq_append_cons_of_mem hbreak
      refine cons line rest hline (ih _ ?_ rest rfl)
      rw [← hn, List.length_append, List.length_cons]
      omega
    · exact last s hbreak

theorem configEnabled_of_line {config option line : Text} (hmem : line ∈ config.splitOn '\n')
    (h : EnablesLine option line) : configEnabled config option = true := by
  induction config using line_induction with
  | last c hc =>
    rw [List.splitOn_eq_singleton hc, List.mem_singleton] at hmem
    subst hmem
    exact (configEnabled_line hc).2 h
  | cons first rest hfirst ih =>
    rw [List.splitOn_append_cons_self, List.splitOn_eq_singleton hfirst, List.singleton_append,
      List.mem_cons] at hmem
    rw [configEnabled_append_break]
    rcases hmem with rfl | hmem
    · exact .inl ((configEnabled_line hfirst).2 h)
    · exact .inr (.inl (ih hmem))

theorem line_or_spread_of_configEnabled {config option : Text} (h : configEnabled config option = true) :
    (∃ line ∈ config.splitOn '\n', EnablesLine option line) ∨
      ∃ c₁ c₂, config = c₁ ++ '\n' :: c₂ ∧ Spread option c₁ c₂ := by
  induction config using line_induction with
  | last c hc =>
    rw [List.splitOn_eq_singleton hc]
    exact .inl ⟨c, List.mem_singleton_self c, (configEnabled_line hc).1 h⟩
  | cons first rest hfirst ih =>
    rw [List.splitOn_append_cons_self, List.splitOn_eq_singleton hfirst]
    rcases (configEnabled_append_break option first rest).1 h with h | h | h
    · exact .inl ⟨first, by simp, (configEnabled_line hfirst).1 h⟩
    · rcases ih h with ⟨line, hline, henables⟩ | ⟨c₁, c₂, rfl, hspread⟩
      · exact .inl ⟨line, List.mem_append_right _ hline, henables⟩
      · exact .inr ⟨first ++ '\n' :: c₁, c₂, by simp, hspread.append first⟩
    · exact .inr ⟨first, rest, rfl, h⟩

theorem Switch.exists_gap_of_break {option u v : Text} (hoption : '\n' ∉ option)
    (h : Switch option (u ++ '\n' :: v)) :
    ∃ gap gap', AllBlank gap ∧ AllBlank gap' ∧ ('\n' ∈ gap ∨ '\n' ∈ gap') ∧
      u ++ '\n' :: v = "#define".toList ++ (gap ++ (option ++ (gap' ++ ['1']))) := by
  have hbreak : '\n' ∈ u ++ '\n' :: v := by simp
  generalize u ++ '\n' :: v = s at h hbreak
  cases h with
  | assigned => simp [hoption] at hbreak
  | @defined gap gap' hgap _ hgap' _ =>
    exact ⟨gap, gap', hgap, hgap', by simpa [hoption] using hbreak, rfl⟩

theorem enabled_iff_line_or_spread (option : Text) :
    (∀ config, configEnabled config option = true ↔
      (∃ line ∈ config.splitOn '\n', EnablesLine option line) ∨
        ∃ c₁ c₂, config = c₁ ++ '\n' :: c₂ ∧ Spread option c₁ c₂) ∧
      (∀ c₁ c₂, configEnabled (c₁ ++ '\n' :: c₂) option = true ↔
        configEnabled c₁ option = true ∨ configEnabled c₂ option = true ∨ Spread option c₁ c₂) ∧
      ('\n' ∉ option → ∀ u v, Switch option (u ++ '\n' :: v) →
        ∃ gap gap', AllBlank gap ∧ AllBlank gap' ∧ ('\n' ∈ gap ∨ '\n' ∈ gap') ∧
          u ++ '\n' :: v = "#define".toList ++ (gap ++ (option ++ (gap' ++ ['1'])))) := by
  refine ⟨fun config => ⟨line_or_spread_of_configEnabled, ?_⟩, configEnabled_append_break option,
    fun hoption u v h => h.exists_gap_of_break hoption⟩
  rintro (⟨line, hmem, h⟩ | ⟨c₁, c₂, rfl, h⟩)
  · exact configEnabled_of_line hmem h
  · exact (configEnabled_append_break option c₁ c₂).2 (.inr (.inr h))

theorem definition_spread_over_blank_line :
    let option := "CONFIG_A".toList
    let c₁ := "CONFIG_AB=y\n# CONFIG_A is not set\n#define CONFIG_A ".toList
    let c₂ := "\t\n1 \nCONFIG_A=n\n".toList
    configEnabled c₁ option = false ∧ configEnabled c₂ option = false ∧ Spread option c₁ c₂ ∧
      ∀ u v, Switch option (u ++ '\n' :: v) → ∃ gap gap', AllBlank gap ∧ AllBlank gap' ∧
        ('\n' ∈ gap ∨ '\n' ∈ gap') ∧
          u ++ '\n' :: v = "#define".toList ++ (gap ++ (option ++ (gap' ++ ['1']))) := by
  intro option c₁ c₂
  obtain ⟨-, hjoined, hgaps⟩ := enabled_iff_line_or_spread option
  have h₁ : configEnabled c₁ option = false := by decide +kernel
  have h₂ : configEnabled c₂ option = false := by decide +kernel
  have hspread := (hjoined c₁ c₂).1 (by decide +kernel)
  rw [h₁, h₂] at hspread
  exact ⟨h₁, h₂, by simpa using hspread, hgaps (by decide)⟩

theorem enabled_by_no_line :
    let option := "CONFIG_A".toList
    configEnabled "#define\nCONFIG_A 1\n".toList option = true ∧
      (∀ line ∈ "#define\nCONFIG_A 1\n".toList.splitOn '\n', ¬ EnablesLine option line) ∧
      configEnabled "#define".toList option = false ∧
      configEnabled "CONFIG_A 1\n".toList option = false := by
  intro option
  have hlines : "#define\nCONFIG_A 1\n".toList.splitOn '\n' =
      ["#define".toList, "CONFIG_A 1".toList, []] := by
    decide +kernel
  refine ⟨by decide +kernel, ?_, by decide +kernel, by decide +kernel⟩
  rw [hlines]
  intro line hmem
  have hbreak : ∀ l ∈ ["#define".toList, "CONFIG_A 1".toList, []], '\n' ∉ l := by decide +kernel
  have hunset : ∀ l ∈ ["#define".toList, "CONFIG_A 1".toList, []], ¬ configEnabled l option = true := by
    decide +kernel
  rw [← configEnabled_line (hbreak line hmem)]
  exact hunset line hmem

end HeaderProbe
