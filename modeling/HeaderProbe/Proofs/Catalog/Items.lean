import HeaderProbe.Run
import HeaderProbe.Proofs.Query.Meaning

namespace HeaderProbe

abbrev Items := List (Except ProbeError Text)

namespace Items

def written : Items → Text
  | [] => []
  | .ok text :: rest => text ++ written rest
  | .error _ :: _ => []

def failure? : Items → Option ProbeError
  | [] => none
  | .ok _ :: rest => failure? rest
  | .error e :: _ => some e

def text (x : Except ProbeError Text) : Text :=
  x.toOption.getD []

variable {xs : Items} {e : ProbeError}

theorem failure?_eq_none_iff : failure? xs = none ↔ ∀ x ∈ xs, ∃ text, x = .ok text := by
  induction xs with
  | nil => simp [failure?]
  | cons x xs ih => cases x <;> simp [failure?, ih]

theorem failure?_append (xs ys : Items) : failure? (xs ++ ys) = (failure? xs).or (failure? ys) := by
  induction xs with
  | nil => rfl
  | cons x xs ih => cases x <;> simp [failure?, ih]

theorem written_append (h : failure? xs = none) (ys : Items) :
    written (xs ++ ys) = written xs ++ written ys := by
  induction xs with
  | nil => rfl
  | cons x xs ih =>
    cases x with
    | error e => cases h
    | ok text => simp only [List.cons_append, written, ih h, List.append_assoc]

theorem written_append_of_failure? (h : failure? xs = some e) (ys : Items) :
    written (xs ++ ys) = written xs := by
  induction xs with
  | nil => cases h
  | cons x xs ih =>
    cases x with
    | error e => rfl
    | ok text => simp only [List.cons_append, written, ih h]

theorem written_eq_flatMap (h : failure? xs = none) : written xs = xs.flatMap text := by
  induction xs with
  | nil => rfl
  | cons x xs ih =>
    cases x with
    | error e => cases h
    | ok text => simp only [List.flatMap_cons, written, ih h]; rfl

theorem exists_of_failure?_map {α : Type} {f : α → Except ProbeError Text} {l : List α}
    (h : failure? (l.map f) = some e) :
    ∃ done a more, l = done ++ a :: more ∧ (∀ b ∈ done, ∃ text, f b = .ok text) ∧ f a = .error e := by
  induction l with
  | nil => cases h
  | cons a l ih =>
    cases ha : f a with
    | error e' =>
      rw [List.map_cons, ha] at h
      cases h
      exact ⟨[], a, l, rfl, by simp, ha⟩
    | ok text =>
      rw [List.map_cons, ha] at h
      obtain ⟨done, b, more, rfl, hdone, hb⟩ := ih h
      exact ⟨a :: done, b, more, rfl, List.forall_mem_cons.2 ⟨⟨text, ha⟩, hdone⟩, hb⟩

end Items

namespace Outcome

variable {α β : Type} {o : Outcome α} {xs ys : Items}

structure Performs (o : Outcome α) (items : Items) : Prop where
  output : o.output = items.written
  error : o.error? = items.failure?

theorem performs_pure (a : α) : (Pure.pure a : Outcome α).Performs [] :=
  ⟨rfl, rfl⟩

theorem performs_record (l : Level) (m : Text) : (Outcome.record l m).Performs [] :=
  ⟨rfl, rfl⟩

theorem performs_fail (e : ProbeError) : (Outcome.fail e : Outcome α).Performs [.error e] :=
  ⟨rfl, rfl⟩

theorem performs_of_silent (h : o.output = []) : o.Performs [o.value.map fun _ => []] := by
  cases hv : o.value with
  | ok a => exact ⟨h, by rw [error?, hv]; rfl⟩
  | error e => exact ⟨h, by rw [error?, hv]; rfl⟩

theorem Performs.bind {f : α → Outcome β} (ho : o.Performs xs)
    (hf : ∀ a, o.value = .ok a → (f a).Performs ys) : (o >>= f).Performs (xs ++ ys) := by
  have herror := ho.error
  cases hv : o.value with
  | ok a =>
    rw [error?, hv] at herror
    have hnone : Items.failure? xs = none := herror.symm
    rw [bind_of_ok hv]
    refine ⟨?_, ?_⟩
    · rw [Items.written_append hnone, ← ho.output, ← (hf a hv).output]
    · rw [Items.failure?_append, hnone, Option.none_or, ← (hf a hv).error]
      rfl
  | error e =>
    rw [error?, hv] at herror
    have hsome : Items.failure? xs = some e := herror.symm
    rw [bind_of_error hv]
    refine ⟨?_, ?_⟩
    · rw [Items.written_append_of_failure? hsome, ← ho.output]
    · rw [Items.failure?_append, hsome]
      rfl

end Outcome

open Outcome

def Fragment.extracted (f : Fragment) (root : Text) (t : Tree) : Except ProbeError Text :=
  (extract f.kind f.declaration f.files root t t).value

def Fragment.item (f : Fragment) (root : Text) (t : Tree) : Except ProbeError Text :=
  (f.extracted root t).map fun _ => []

def CatalogEntry.emitted (e : CatalogEntry) (root : Text) (t : Tree) (literal : Option Text) :
    Except ProbeError Text :=
  match Query.ofLine e.query literal (fragmentLabel e.fragment) with
  | .error err => .error (.query err)
  | .ok q => (q.generate root t t).value.map fun _ => (q.generate root t t).output

namespace CatalogGroup

def extracted? (g : CatalogGroup) (root : Text) (t : Tree) (name : Text) :
    Option (Except ProbeError Text) :=
  (g.fragments.reverse.find? fun f => f.name == name).map fun f => f.extracted root t

def emitted (g : CatalogGroup) (root : Text) (t : Tree) (e : CatalogEntry) :
    Except ProbeError Text :=
  match e.fragment with
  | none => e.emitted root t none
  | some name =>
      match g.extracted? root t name with
      | none => .error (.unknownFragment name e.query)
      | some text => text.bind fun text => e.emitted root t (some text)

def items (g : CatalogGroup) (root : Text) (t : Tree) : Items :=
  g.fragments.map (·.item root t) ++ g.entries.map (g.emitted root t)

structure Runs (g : CatalogGroup) (s : Settings) (config : Text) (t : Tree) : Prop where
  recorded : s.unitTesting = true → g.onRecord = true
  enabled : ∀ o, g.option = some o → o ≠ [] → configEnabled config o = true
  present : ∀ f, g.requiredFile = some f → f ≠ [] → t.hasContent s.rootPath f = true

theorem filter_unless_eq_none_iff {o : Option Text} {p : Text → Bool} :
    (o.filter fun x => !x.isEmpty && !p x) = none ↔ ∀ x, o = some x → x ≠ [] → p x = true := by
  cases o with
  | none => simp
  | some x => simp [Option.filter_eq_none_iff]

theorem obstacle?_eq_none_iff {g : CatalogGroup} {s : Settings} {config : Text} {t : Tree} :
    g.obstacle? s config t = none ↔ g.Runs s config t := by
  have henabled : _ ↔ ∀ o, g.option = some o → o ≠ [] → configEnabled config o = true :=
    filter_unless_eq_none_iff
  have hpresent : _ ↔ ∀ f, g.requiredFile = some f → f ≠ [] → t.hasContent s.rootPath f = true :=
    filter_unless_eq_none_iff
  unfold obstacle?
  constructor
  · intro h
    split at h
    · cases h
    · next hrecorded =>
      split at h
      · cases h
      · next ho =>
        split at h
        · cases h
        · next hf => exact ⟨by simpa using hrecorded, henabled.1 ho, hpresent.1 hf⟩
  · intro h
    rw [if_neg (by simpa using h.recorded), henabled.2 h.enabled, hpresent.2 h.present]

instance (g : CatalogGroup) (s : Settings) (config : Text) (t : Tree) :
    Decidable (g.Runs s config t) :=
  decidable_of_iff _ obstacle?_eq_none_iff

end CatalogGroup

def Catalog.items (s : Settings) (config : Text) (t : Tree) (c : Catalog) : Items :=
  (c.filter fun g => g.Runs s config t).flatMap fun g => g.items s.rootPath t

variable {root : Text} {t : Tree}

theorem output_extract (kind name : Text) (files : List Text) (root : Text) (seen now : Tree) :
    (extract kind name files root seen now).output = [] := by
  unfold extract
  cases DeclKind.ofWord? kind with
  | none => rfl
  | some k => simp [output_bind, output_resolve, resolve_value]

theorem Query.performs_generate (q : Query) (root : Text) (seen now : Tree) :
    (q.generate root seen now).Performs
      [(q.generate root seen now).value.map fun _ => (q.generate root seen now).output] := by
  cases hv : (q.evaluate root seen now).value with
  | error e =>
    obtain ⟨hvalue, houtput⟩ := generate_of_error hv
    rw [houtput]
    exact performs_of_silent houtput
  | ok v =>
    obtain ⟨hvalue, -⟩ := generate_of_ok hv
    rw [hvalue]
    exact ⟨(List.append_nil _).symm, by rw [error?, hvalue]; rfl⟩

theorem performs_extractFragments (fragments : List Fragment) (found : List (Text × Text)) :
    (extractFragments root t fragments found).Performs (fragments.map (·.item root t)) := by
  induction fragments generalizing found with
  | nil => exact performs_pure found
  | cons f rest ih =>
    exact (performs_of_silent (output_extract ..)).bind fun text _ => ih _

theorem lookup_of_extractFragments {fragments : List Fragment} {found texts : List (Text × Text)}
    (h : (extractFragments root t fragments found).value = .ok texts) (name : Text) :
    (texts.lookup name).map Except.ok =
      ((fragments.reverse.find? fun f => f.name == name).map fun f => f.extracted root t).or
        ((found.lookup name).map Except.ok) := by
  induction fragments generalizing found with
  | nil =>
    cases h
    rfl
  | cons f rest ih =>
    have hbind : ((f.extracted root t).bind fun text =>
        (extractFragments root t rest ((f.name, text) :: found)).value) = .ok texts := by
      rw [← h, extractFragments, value_bind]
      rfl
    cases hf : f.extracted root t with
    | error e =>
      rw [hf] at hbind
      cases hbind
    | ok text =>
      rw [hf] at hbind
      rw [ih hbind, List.reverse_cons, List.find?_append, Option.map_or, Option.or_assoc]
      congr 1
      by_cases hname : f.name = name
      · subst hname
        simp [hf]
      · have hne : (name == f.name) = false := beq_false_of_ne fun h => hname h.symm
        simp [hname, List.lookup_cons, hne]

theorem CatalogEntry.performs_runWith (e : CatalogEntry) (literal : Option Text) :
    (e.runWith root t literal).Performs [e.emitted root t literal] := by
  unfold runWith emitted
  cases Query.ofLine e.query literal (fragmentLabel e.fragment) with
  | error err => exact performs_fail _
  | ok q => exact (q.performs_generate root t t).bind fun _ _ => performs_pure ()

theorem CatalogEntry.performs_run {g : CatalogGroup} {texts : List (Text × Text)}
    (h : (extractFragments root t g.fragments []).value = .ok texts) (e : CatalogEntry) :
    (e.run root t texts).Performs [g.emitted root t e] := by
  unfold run CatalogGroup.emitted
  cases e.fragment with
  | none => exact e.performs_runWith none
  | some name =>
    have hlookup := lookup_of_extractFragments h name
    rw [List.lookup_nil, Option.map_none, Option.or_none] at hlookup
    dsimp only
    rw [CatalogGroup.extracted?, ← hlookup]
    cases texts.lookup name with
    | none => exact performs_fail _
    | some text => exact e.performs_runWith (some text)

theorem performs_runEntries {g : CatalogGroup} {texts : List (Text × Text)}
    (h : (extractFragments root t g.fragments []).value = .ok texts) (entries : List CatalogEntry) :
    (runEntries root t texts entries).Performs (entries.map (g.emitted root t)) := by
  induction entries with
  | nil => exact performs_pure ()
  | cons e rest ih => exact (CatalogEntry.performs_run h e).bind fun _ _ => ih

theorem CatalogGroup.performs_run (g : CatalogGroup) (root : Text) (t : Tree) :
    (g.run root t).Performs (g.items root t) :=
  (performs_record .info _).bind fun _ _ =>
    (performs_extractFragments g.fragments []).bind fun _ h => performs_runEntries h g.entries

theorem Catalog.performs_run (s : Settings) (config : Text) (t : Tree) (c : Catalog) :
    (Catalog.run s config t c).Performs (c.items s config t) := by
  induction c with
  | nil => exact performs_pure ()
  | cons g rest ih =>
    rw [run, items, List.filter_cons]
    cases hg : g.obstacle? s config t with
    | some why =>
      have hruns : ¬ g.Runs s config t := by
        rw [← CatalogGroup.obstacle?_eq_none_iff, hg]
        simp
      rw [if_neg (by simpa using hruns)]
      exact (performs_record .info _).bind fun _ _ => ih
    | none =>
      rw [if_pos (by simpa using CatalogGroup.obstacle?_eq_none_iff.1 hg), List.flatMap_cons]
      exact (g.performs_run s.rootPath t).bind fun _ _ => ih

end HeaderProbe
