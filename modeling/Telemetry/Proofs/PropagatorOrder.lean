import Telemetry.Assembly.Propagation
import Telemetry.Proofs.KeyValueLists

/-!
The order in which propagators are combined.

A propagator section names propagators twice over: as component references, and in a
comma-separated list. The propagators combined are the references followed by the names of the
list, each trimmed and the empty ones left out, with a name that comes again dropped, wherever
it comes again: the first reference or name of each name is kept, with its configuration
(`effectiveComponents_eq_eraseDupsBy`). So the names are distinct, every name written is among
them, the references come first, and a later reference of a name loses its configuration.

The runtime's propagator is resolved from them in that order, each once: resolved through the
registry with its configuration as written, recorded on the ledger when it has a shutdown, and
described in the composite in the same place (`resolvePropagator_some`). A document without a
propagator section resolves nothing and gets the composite over nothing.
-/

namespace Telemetry.Model

namespace PropagatorSection

/-! ### The first reference of each name -/

theorem firstOfEachName_cons (seen : List String) (c : ComponentRef) (cs : List ComponentRef) :
    firstOfEachName seen (c :: cs) =
      if c.name ∈ seen then firstOfEachName seen cs else c :: firstOfEachName (c.name :: seen) cs := by
  simp only [firstOfEachName, List.contains_iff_mem]

/-- Only which names were seen matters, not in what order or how often. --/
theorem firstOfEachName_congr {seen seen' : List String} (h : ∀ n, n ∈ seen ↔ n ∈ seen') (l : List ComponentRef) :
    firstOfEachName seen l = firstOfEachName seen' l := by
  induction l generalizing seen seen' with
  | nil => rfl
  | cons c cs ih =>
    rw [firstOfEachName_cons, firstOfEachName_cons, ih h]
    by_cases hc : c.name ∈ seen
    · rw [if_pos hc, if_pos ((h _).mp hc)]
    · rw [if_neg hc, if_neg (mt (h _).mpr hc)]
      congr 1
      exact ih fun n => by simp [h n]

theorem mem_names_firstOfEachName (seen : List String) (l : List ComponentRef) (n : String) :
    n ∈ (firstOfEachName seen l).map (·.name) ↔ n ∈ l.map (·.name) ∧ n ∉ seen := by
  induction l generalizing seen with
  | nil => simp [firstOfEachName_nil]
  | cons c cs ih =>
    rw [firstOfEachName_cons]
    by_cases hc : c.name ∈ seen
    · rw [if_pos hc, ih, List.map_cons, List.mem_cons]
      constructor
      · rintro ⟨hn, hs⟩
        exact ⟨.inr hn, hs⟩
      · rintro ⟨rfl | hn, hs⟩
        · exact absurd hc hs
        · exact ⟨hn, hs⟩
    · rw [if_neg hc, List.map_cons, List.mem_cons, ih, List.map_cons, List.mem_cons, List.mem_cons]
      by_cases hn : n = c.name
      · subst hn
        simp [hc]
      · simp [hn]

theorem nodup_names_firstOfEachName (seen : List String) (l : List ComponentRef) :
    ((firstOfEachName seen l).map (·.name)).Nodup := by
  induction l generalizing seen with
  | nil => exact List.nodup_nil
  | cons c cs ih =>
    rw [firstOfEachName_cons]
    split
    · exact ih seen
    · rw [List.map_cons, List.nodup_cons, mem_names_firstOfEachName]
      exact ⟨fun h => h.2 List.mem_cons_self, ih _⟩

/-- The references of a second list are kept after those of the first, each unless its name was
seen or taken by the first. --/
theorem firstOfEachName_append (seen : List String) (xs ys : List ComponentRef) :
    firstOfEachName seen (xs ++ ys) = firstOfEachName seen xs ++ firstOfEachName (xs.map (·.name) ++ seen) ys := by
  induction xs generalizing seen with
  | nil => rfl
  | cons c cs ih =>
    rw [List.cons_append, firstOfEachName_cons, firstOfEachName_cons]
    by_cases hc : c.name ∈ seen
    · rw [if_pos hc, if_pos hc, ih]
      congr 1
      exact firstOfEachName_congr (fun n => by simp only [List.map_cons, List.mem_append, List.mem_cons]; grind) ys
    · rw [if_neg hc, if_neg hc, ih, List.cons_append]
      congr 2
      exact firstOfEachName_congr (fun n => by simp only [List.map_cons, List.mem_append, List.mem_cons]; grind) ys

/-- The reference kept for a name is the first one written under it. --/
theorem find?_firstOfEachName (seen : List String) (l : List ComponentRef) (n : String) :
    (firstOfEachName seen l).find? (·.name == n) = if n ∈ seen then none else l.find? (·.name == n) := by
  induction l generalizing seen with
  | nil => simp [firstOfEachName_nil]
  | cons c cs ih =>
    rw [firstOfEachName_cons]
    by_cases hc : c.name ∈ seen
    · rw [if_pos hc, ih]
      by_cases hn : n ∈ seen
      · rw [if_pos hn, if_pos hn]
      · have hne : (c.name == n) = false := by
          simp only [beq_eq_false_iff_ne]
          exact fun h => hn (h ▸ hc)
        rw [if_neg hn, if_neg hn, List.find?_cons_of_neg (by simp [hne])]
    · rw [if_neg hc, List.find?_cons, List.find?_cons, ih]
      by_cases hn : c.name = n
      · subst hn
        simp [hc]
      · have hne : (c.name == n) = false := beq_eq_false_iff_ne.mpr hn
        simp only [hne, List.mem_cons]
        by_cases hs : n ∈ seen
        · simp [hs]
        · simp [hs, Ne.symm hn]

/-- The seen-set walk is the library's removal of later duplicates, by name, of the references
whose name was not seen. --/
theorem firstOfEachName_eq_eraseDupsBy (seen : List String) (l : List ComponentRef) :
    firstOfEachName seen l = (l.filter fun c => c.name ∉ seen).eraseDupsBy (fun a b => a.name == b.name) := by
  induction l generalizing seen with
  | nil => rfl
  | cons c cs ih =>
    rw [firstOfEachName_cons, List.filter_cons]
    by_cases hc : c.name ∈ seen
    · simp only [hc, not_true_eq_false, decide_false, Bool.false_eq_true, ↓reduceIte]
      exact ih seen
    · simp only [hc, not_false_eq_true, decide_true, ↓reduceIte]
      rw [List.eraseDupsBy_cons, ih, List.filter_filter]
      congr 2
      apply List.filter_congr
      intro b _
      simp only [List.mem_cons, not_or, beq_eq_false_iff_ne, ne_eq, Bool.decide_and]

theorem firstOfEachName_nil_eq_eraseDupsBy (l : List ComponentRef) :
    firstOfEachName [] l = l.eraseDupsBy (fun a b => a.name == b.name) := by
  rw [firstOfEachName_eq_eraseDupsBy, List.filter_eq_self.mpr]
  intro c _
  simp

theorem firstOfEachName_sublist (seen : List String) (l : List ComponentRef) : (firstOfEachName seen l).Sublist l := by
  induction l generalizing seen with
  | nil => exact List.Sublist.slnil
  | cons c cs ih =>
    rw [firstOfEachName_cons]
    split
    · exact (ih seen).cons c
    · exact (ih _).cons_cons c

/-! ### The effective references -/

/-- The references the comma-separated list names, in order: the entries of the list, each with
the empty configuration. --/
def listedRefs (p : PropagatorSection) : List ComponentRef :=
  (listEntries (p.compositeList.getD "")).map ComponentRef.named

theorem listedNames_eq_listEntries (s : String) : listedNames s = listEntries s := by
  unfold listedNames listEntries
  congr 1
  funext n
  by_cases h : n = ""
  · simp [h]
  · simp [h]

theorem effectiveComponents_eq_firstOfEachName (p : PropagatorSection) :
    p.effectiveComponents = firstOfEachName [] (p.composite ++ p.listedRefs) := by
  rw [firstOfEachName_append, effectiveComponents, listedNames_eq_listEntries]
  congr 1
  refine firstOfEachName_congr (fun n => ?_) _
  rw [mem_names_firstOfEachName]
  simp

theorem effectiveComponents_eq_eraseDupsBy (p : PropagatorSection) :
    p.effectiveComponents = (p.composite ++ p.listedRefs).eraseDupsBy (fun a b => a.name == b.name) := by
  rw [effectiveComponents_eq_firstOfEachName, firstOfEachName_nil_eq_eraseDupsBy]

theorem config_of_mem_listedRefs {p : PropagatorSection} {c : ComponentRef} (h : c ∈ p.listedRefs) : c.config = [] := by
  obtain ⟨n, -, rfl⟩ := List.mem_map.mp h
  rfl

/-- The references come first, each name once; then the listed names no reference took, with
the empty configuration. --/
theorem effectiveComponents_composite_first (p : PropagatorSection) :
    ∃ rest, p.effectiveComponents = p.composite.eraseDupsBy (fun a b => a.name == b.name) ++ rest ∧
      ∀ c ∈ rest, c.name ∉ p.composite.map (·.name) ∧ c.config = [] := by
  refine ⟨firstOfEachName (p.composite.map (·.name) ++ []) p.listedRefs, ?_, ?_⟩
  · rw [effectiveComponents_eq_firstOfEachName, firstOfEachName_append, firstOfEachName_nil_eq_eraseDupsBy p.composite]
  · intro c hc
    have hname : c.name ∈ (firstOfEachName (p.composite.map (·.name) ++ []) p.listedRefs).map (·.name) :=
      List.mem_map_of_mem hc
    rw [mem_names_firstOfEachName, List.append_nil] at hname
    exact ⟨hname.2, config_of_mem_listedRefs ((firstOfEachName_sublist _ _).subset hc)⟩

end PropagatorSection

end Telemetry.Model

namespace Telemetry.Assembly

open Pipeline Components Model

/-! ### Resolving the propagators -/

/-- The propagators are resolved one after the other, in the order of the effective references,
and combined in the same order. --/
theorem resolvePropagator_some (ctx : Context) (sec : PropagatorSection) :
    resolvePropagator ctx (some sec) = compositeView <$> sec.effectiveComponents.mapM (propagatorStep ctx) := by
  simp only [resolvePropagator]
  rw [forIn_store _ (propagatorStep ctx) (fun views v => views ++ [v]), map_eq_pure_bind]
  · -- appending each answer in turn to nothing gives the answers
    simp [← List.flatMap_def]
  · intro c views
    rw [map_eq_pure_bind]

/-- The propagators of a section and how they are resolved: the effective references are the
references then the listed names with every later duplicate of a name dropped; so their names are
distinct, every name written is among them, the references come first and each name keeps its
first configuration; each is resolved once, in that order, and combined in that order; and
without a section nothing is resolved. --/
structure PropagatorOrder (ctx : Context) : Prop where
  reference : ∀ p : PropagatorSection,
    p.effectiveComponents = (p.composite ++ p.listedRefs).eraseDupsBy (fun a b => a.name == b.name)
  distinct : ∀ p : PropagatorSection, (p.effectiveComponents.map (·.name)).Nodup
  named : ∀ (p : PropagatorSection) n,
    n ∈ p.effectiveComponents.map (·.name) ↔ n ∈ p.composite.map (·.name) ∨ n ∈ p.listedRefs.map (·.name)
  compositeFirst : ∀ p : PropagatorSection,
    ∃ rest, p.effectiveComponents = p.composite.eraseDupsBy (fun a b => a.name == b.name) ++ rest ∧
      ∀ c ∈ rest, c.name ∉ p.composite.map (·.name) ∧ c.config = []
  firstWins : ∀ (p : PropagatorSection) n,
    p.effectiveComponents.find? (·.name == n) = (p.composite ++ p.listedRefs).find? (·.name == n)
  resolves : ∀ sec : PropagatorSection,
    resolvePropagator ctx (some sec) = compositeView <$> sec.effectiveComponents.mapM (propagatorStep ctx)
  unset : ∀ b : Bench, (resolvePropagator ctx none).run.run b = (.ok (compositeView []), b)

theorem resolvePropagator_order (ctx : Context) : PropagatorOrder ctx where
  reference := PropagatorSection.effectiveComponents_eq_eraseDupsBy
  distinct p := by
    rw [PropagatorSection.effectiveComponents_eq_firstOfEachName]
    exact PropagatorSection.nodup_names_firstOfEachName _ _
  named p n := by
    rw [PropagatorSection.effectiveComponents_eq_firstOfEachName, PropagatorSection.mem_names_firstOfEachName]
    simp
  compositeFirst := PropagatorSection.effectiveComponents_composite_first
  firstWins p n := by
    rw [PropagatorSection.effectiveComponents_eq_firstOfEachName, PropagatorSection.find?_firstOfEachName]
    simp
  resolves := resolvePropagator_some ctx
  unset b := resolvePropagator_none ctx b

end Telemetry.Assembly
