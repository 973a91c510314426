import Telemetry.Proofs.StageOrder
import Telemetry.Assembly.Resource

/-!
How the resource of a document is layered.

A resource section is resolved in layers, each merged onto the one below: the defaults, what the
detectors detect, merged in the detectors' order, and the document's own attributes, the entries
after the `key=value` list. The merge lets the upper layer win on a shared key, but only when the
two schema URLs agree: an empty one gives way, and two different non-empty ones are not merged at
all, the lower layer kept as it is. So the layers stack as the precedence says exactly when the
schemas agree (`layered_of_agree`); then every attribute the document writes under a non-empty name
is in the resource with its value, and a non-empty schema URL of the document is the resource's.
When a detector reports a schema URL other than the document's, the document's attributes are
dropped whole (`layered_conflict`).
-/

namespace Telemetry

/-! ### Keys that stay distinct -/

section Keys

variable {β : Type}

theorem keys_map_replace (l : List (String × β)) (k : String) (g : String × β → β) :
    (l.map fun p => if p.1 == k then (k, g p) else p).map Prod.fst = l.map Prod.fst := by
  rw [List.map_map]
  congr 1
  funext p
  by_cases hp : p.1 = k
  · simp [hp]
  · simp [hp]

theorem nodup_keys_append {l : List (String × β)} (h : (l.map Prod.fst).Nodup) {k : String}
    (hk : l.any (·.1 == k) = false) (v : β) : ((l ++ [(k, v)]).map Prod.fst).Nodup := by
  simp only [List.map_append, List.map_cons, List.map_nil]
  refine List.nodup_append.mpr ⟨h, List.nodup_singleton _, ?_⟩
  intro a ha b hb hab
  obtain ⟨p, hp, rfl⟩ := List.mem_map.mp ha
  rw [List.mem_singleton] at hb
  have : l.any (·.1 == k) = true := List.any_eq_true.mpr ⟨p, hp, by simp [hab, hb]⟩
  rw [hk] at this
  cases this

theorem ne_of_not_mem_keys {l : List (String × β)} {k : String} (h : k ∉ l.map Prod.fst) : ∀ p ∈ l, p.1 ≠ k :=
  fun _ hp he => h (he ▸ List.mem_map_of_mem hp)

theorem nodup_putPair {acc : List (String × String)} (h : (acc.map Prod.fst).Nodup) (k v : String) :
    ((putPair acc k v).map Prod.fst).Nodup := by
  unfold putPair
  split
  · rwa [keys_map_replace]
  · next hk => exact nodup_keys_append h (Bool.eq_false_iff.mpr hk) _

end Keys

theorem nodup_readEntries {what : String} :
    ∀ {acc : List (String × String)} {es : List String} {out : List (String × String)},
      readEntries what acc es = .ok out → (acc.map Prod.fst).Nodup → (out.map Prod.fst).Nodup
  | acc, [], out, h, hn => by
    cases h
    exact hn
  | acc, e :: es, out, h, hn => by
    simp only [readEntries] at h
    split at h
    · exact nodup_readEntries h hn
    · split at h
      · split at h
        · cases h
        · exact nodup_readEntries h (nodup_putPair hn _ _)
      · cases h

theorem nodup_parseKeyValueList {value : Option String} {what : String} {out : List (String × String)}
    (h : parseKeyValueList value what = .ok out) : (out.map Prod.fst).Nodup := by
  unfold parseKeyValueList at h
  split at h
  · cases h
    exact List.nodup_nil
  · split at h
    · cases h
      exact List.nodup_nil
    · exact nodup_readEntries h List.nodup_nil

end Telemetry

namespace Telemetry.Members

theorem find?_key_map {ms : Members} {k k' : String} {f : String × Json → Json} :
    (ms.map fun m => if m.1 == k then (k, f m) else m).find? (·.1 == k') =
      (ms.find? (·.1 == k')).map fun m => if m.1 == k then (k, f m) else m := by
  rw [List.find?_map]
  congr 2
  funext m
  by_cases hm : m.1 = k
  · simp [hm]
  · simp [hm]

theorem get?_insert_self (ms : Members) (k : String) (v : Json) : (ms.insert k v).get? k = some v := by
  unfold insert get?
  split
  · next hc =>
    rw [find?_key_map]
    obtain ⟨m, hm⟩ := Option.isSome_iff_exists.mp (List.find?_isSome.mpr (List.any_eq_true.mp hc))
    have hk := List.find?_some hm
    rw [hm]
    simp_all
  · next hc =>
    have hn : ms.find? (·.1 == k) = none := by
      rw [List.find?_eq_none]
      intro m hm hk
      exact hc (List.any_eq_true.mpr ⟨m, hm, hk⟩)
    simp [List.find?_append, hn]

theorem get?_insert_ne (ms : Members) {k k' : String} (v : Json) (h : k' ≠ k) :
    (ms.insert k v).get? k' = ms.get? k' := by
  unfold insert get?
  split
  · rw [find?_key_map]
    cases hf : ms.find? (·.1 == k') with
    | none => rfl
    | some m =>
      have hk : m.1 = k' := by simpa using List.find?_some hf
      simp [hk, h]
  · rw [List.find?_append]
    cases ms.find? (·.1 == k') with
    | none => simp [Ne.symm h]
    | some m => rfl

theorem nodup_insert {ms : Members} (h : (ms.map Prod.fst).Nodup) (k : String) (v : Json) :
    ((ms.insert k v).map Prod.fst).Nodup := by
  unfold insert
  split
  · rwa [keys_map_replace]
  · next hk => exact nodup_keys_append h (Bool.eq_false_iff.mpr hk) _

theorem get?_of_mem {ms : Members} (h : (ms.map Prod.fst).Nodup) {k : String} {v : Json} (hm : (k, v) ∈ ms) :
    ms.get? k = some v := by
  induction ms with
  | nil => cases hm
  | cons m ms ih =>
    obtain ⟨hnot, hrest⟩ := List.nodup_cons.mp h
    rcases List.mem_cons.mp hm with rfl | hm
    · simp [get?]
    · have hne : m.1 ≠ k := (ne_of_not_mem_keys hnot (k, v) hm).symm
      have := ih hrest hm
      simp_all [get?]

end Telemetry.Members

namespace Telemetry.Assembly

open Pipeline Components Model

/-! ### The attributes a section writes -/

/-- Write one attribute entry over the attributes so far, with its value checked against its type. --/
def writeEntry (attrs : Members) (a : AttributeEntry) : Except Fault Members :=
  (attrs.insert a.name ·) <$> coerceAttribute a

/-- The attributes a resource section writes, read without a bench: the listed ones, then the
entries in order. --/
def writtenAttributes (sec : ResourceSection) : Except Fault Members := do
  let listed ← match parseKeyValueList sec.attributesList "resource attribute" with
    | .ok ps => pure ps
    | .error e => throw (Fault.wrap "Invalid attributes_list: " e)
  sec.attributes.foldlM writeEntry (listed.map fun p => (p.1, .str p.2))

theorem except_bind_eq_ok {ε α β : Type} {x : Except ε α} {f : α → Except ε β} {r : β}
    (h : (x >>= f) = .ok r) : ∃ a, x = .ok a ∧ f a = .ok r := by
  cases x with
  | error e => cases h
  | ok a => exact ⟨a, rfl, h⟩

theorem sectionAttributes_eq (sec : ResourceSection) :
    sectionAttributes sec = Build.ofExcept (writtenAttributes sec) := by
  unfold sectionAttributes writtenAttributes
  cases parseKeyValueList sec.attributesList "resource attribute" with
  | error e => rfl
  | ok listed =>
    simp only [pure_bind]
    rw [forIn_ofExcept _ _ writeEntry, bind_pure]
    -- the body checks the entry's value and stores it
    intro a r
    simp only [writeEntry]
    cases coerceAttribute a <;> rfl

theorem writeEntry_eq_ok {attrs out : Members} {a : AttributeEntry} (h : writeEntry attrs a = .ok out) :
    ∃ v, coerceAttribute a = .ok v ∧ out = attrs.insert a.name v := by
  unfold writeEntry at h
  cases hc : coerceAttribute a with
  | error e => rw [hc] at h; cases h
  | ok v =>
    rw [hc] at h
    cases h
    exact ⟨v, rfl, rfl⟩

theorem foldlM_writeEntry_cons {a : AttributeEntry} {l : List AttributeEntry} {init out : Members}
    (h : (a :: l).foldlM writeEntry init = .ok out) :
    ∃ v, coerceAttribute a = .ok v ∧ l.foldlM writeEntry (init.insert a.name v) = .ok out := by
  rw [List.foldlM_cons] at h
  obtain ⟨x, hx, hrest⟩ := except_bind_eq_ok h
  obtain ⟨v, hv, rfl⟩ := writeEntry_eq_ok hx
  exact ⟨v, hv, hrest⟩

theorem get?_foldlM_writeEntry_of_ne {k : String} :
    ∀ {l : List AttributeEntry} {init out : Members}, l.foldlM writeEntry init = .ok out →
      (∀ a ∈ l, a.name ≠ k) → out.get? k = init.get? k
  | [], _, _, h, _ => by cases h; rfl
  | a :: l, init, out, h, hk => by
    obtain ⟨v, -, hrest⟩ := foldlM_writeEntry_cons h
    rw [get?_foldlM_writeEntry_of_ne hrest fun a' ha' => hk a' (List.mem_cons_of_mem _ ha'),
      Members.get?_insert_ne _ _ (Ne.symm (hk a List.mem_cons_self))]

/-- The last entry of a name is what the section writes under it. --/
theorem get?_foldlM_writeEntry_last {pre post : List AttributeEntry} {a : AttributeEntry} {init out : Members}
    (h : (pre ++ a :: post).foldlM writeEntry init = .ok out) (hpost : ∀ a' ∈ post, a'.name ≠ a.name) :
    ∃ v, coerceAttribute a = .ok v ∧ out.get? a.name = some v := by
  rw [List.foldlM_append] at h
  obtain ⟨mid, -, hrest⟩ := except_bind_eq_ok h
  obtain ⟨v, hv, hpost'⟩ := foldlM_writeEntry_cons hrest
  rw [get?_foldlM_writeEntry_of_ne hpost' hpost, Members.get?_insert_self]
  exact ⟨v, hv, rfl⟩

theorem nodup_foldlM_writeEntry :
    ∀ {l : List AttributeEntry} {init out : Members}, l.foldlM writeEntry init = .ok out →
      (init.map Prod.fst).Nodup → (out.map Prod.fst).Nodup
  | [], _, _, h, hn => by cases h; exact hn
  | _ :: _, _, _, h, hn => by
    obtain ⟨_, -, hrest⟩ := foldlM_writeEntry_cons h
    exact nodup_foldlM_writeEntry hrest (Members.nodup_insert hn _ _)

/-- What a section writes: no name twice, under the name of an entry the value of the last entry of
that name, and under a listed key that no entry names the listed text. --/
structure Writes (sec : ResourceSection) (attrs : Members) : Prop where
  distinct : (attrs.map Prod.fst).Nodup
  entry : ∀ pre a post, sec.attributes = pre ++ a :: post → (∀ a' ∈ post, a'.name ≠ a.name) →
    ∃ v, coerceAttribute a = .ok v ∧ attrs.get? a.name = some v
  listed : ∀ listed, parseKeyValueList sec.attributesList "resource attribute" = .ok listed →
    ∀ k s, (k, s) ∈ listed → (∀ a ∈ sec.attributes, a.name ≠ k) → attrs.get? k = some (.str s)

theorem writes_of_written {sec : ResourceSection} {attrs : Members} (h : writtenAttributes sec = .ok attrs) :
    Writes sec attrs := by
  unfold writtenAttributes at h
  cases hp : parseKeyValueList sec.attributesList "resource attribute" with
  | error e => rw [hp] at h; cases h
  | ok listed =>
    rw [hp] at h
    have hfold : sec.attributes.foldlM writeEntry (listed.map fun p => (p.1, .str p.2)) = .ok attrs := h
    have hlisted : ((listed.map fun p => (p.1, Json.str p.2)).map Prod.fst).Nodup := by
      simpa [List.map_map, Function.comp_def] using nodup_parseKeyValueList hp
    refine ⟨nodup_foldlM_writeEntry hfold hlisted, ?_, ?_⟩
    · intro pre a post hsplit hpost
      rw [hsplit] at hfold
      exact get?_foldlM_writeEntry_last hfold hpost
    · intro listed' hp' k s hks hk
      rw [hp] at hp'
      cases hp'
      rw [get?_foldlM_writeEntry_of_ne hfold hk]
      exact Members.get?_of_mem hlisted (List.mem_map_of_mem (f := fun p => (p.1, Json.str p.2)) hks)

end Telemetry.Assembly

namespace Telemetry.Pipeline

/-! ### The attributes of a resource made from values -/

theorem Bounds.put_resource (d : List (String × Json)) (key : String) (v : Json) :
    Bounds.resource.put d key v =
      if key.isEmpty then d else d.filter (·.1 != key) ++ [(key, cleanExtended none v)] := by
  by_cases hk : key.isEmpty
  · simp [Bounds.put, Bounds.clean, Bounds.resource, hk]
  · have hc : Bounds.resource.clean key v = some (cleanExtended none v) := by
      simp [Bounds.clean, Bounds.resource, hk]
    have h0 : ((none : Option Nat) == some 0) = false := rfl
    have hlen : ((none : Option Nat) == some d.length) = false := rfl
    unfold Bounds.put
    rw [hc]
    simp only [Bounds.resource, hk, h0, hlen, Bool.false_eq_true, if_false]
    split
    · rfl
    · next hany =>
      -- a key not there yet: filtering it out changes nothing
      have hd : d.filter (·.1 != key) = d :=
        List.filter_eq_self.mpr fun p hp => by
          have : ¬ (p.1 == key) = true := fun h => hany (List.any_eq_true.mpr ⟨p, hp, h⟩)
          simpa using this
      rw [hd]

theorem nodup_put_resource {d : List (String × Json)} (h : (d.map Prod.fst).Nodup) (key : String) (v : Json) :
    ((Bounds.resource.put d key v).map Prod.fst).Nodup := by
  rw [Bounds.put_resource]
  split
  · exact h
  · have hsub : ((d.filter (·.1 != key)).map Prod.fst).Nodup :=
      h.sublist (List.filter_sublist.map _)
    refine nodup_keys_append hsub ?_ _
    rw [List.any_eq_false]
    intro p hp
    simpa using (List.mem_filter.mp hp).2

/-- What every step of a fill keeps holds of the filled collection. --/
theorem fill_invariant {P : List (String × Json) → Prop} (hnil : P [])
    (hput : ∀ d key v, P d → P (Bounds.resource.put d key v)) (ms : List (String × Json)) :
    P (Bounds.resource.fill ms) := by
  unfold Bounds.fill
  suffices ∀ d, P d → P (ms.foldl (fun d m => Bounds.resource.put d m.1 m.2) d) from this [] hnil
  induction ms with
  | nil => exact fun d h => h
  | cons m ms ih => exact fun d h => ih _ (hput d m.1 m.2 h)

theorem nodup_fill (ms : List (String × Json)) : ((Bounds.resource.fill ms).map Prod.fst).Nodup :=
  fill_invariant (P := fun d => (d.map Prod.fst).Nodup) List.nodup_nil
    (fun _ key v h => nodup_put_resource h key v) ms

theorem mem_foldl_put_of_ne {k : String} {c : Json} :
    ∀ (ms : List (String × Json)) {d : List (String × Json)}, (k, c) ∈ d → (∀ p ∈ ms, p.1 ≠ k) →
      (k, c) ∈ ms.foldl (fun d m => Bounds.resource.put d m.1 m.2) d
  | [], _, hd, _ => hd
  | m :: ms, d, hd, hk => by
    rw [List.foldl_cons]
    refine mem_foldl_put_of_ne ms ?_ fun p hp => hk p (List.mem_cons_of_mem _ hp)
    rw [Bounds.put_resource]
    split
    · exact hd
    · have hne : m.1 ≠ k := hk m List.mem_cons_self
      exact List.mem_append_left _ (List.mem_filter.mpr ⟨hd, by simpa using Ne.symm hne⟩)

/-- Every member under a non-empty key is kept, cleaned, when no key is written twice. --/
theorem mem_fill {ms : List (String × Json)} (h : (ms.map Prod.fst).Nodup) {k : String} {v : Json}
    (hm : (k, v) ∈ ms) (hk : k ≠ "") : (k, cleanExtended none v) ∈ Bounds.resource.fill ms := by
  unfold Bounds.fill
  suffices ∀ d, (k, cleanExtended none v) ∈ ms.foldl (fun d m => Bounds.resource.put d m.1 m.2) d from this []
  induction ms with
  | nil => cases hm
  | cons m ms ih =>
    intro d
    rw [List.foldl_cons]
    obtain ⟨hnot, hrest⟩ := List.nodup_cons.mp h
    rcases List.mem_cons.mp hm with rfl | hm
    · -- the member itself: set now, and no later member has its key
      refine mem_foldl_put_of_ne ms ?_ (ne_of_not_mem_keys hnot)
      rw [Bounds.put_resource, if_neg (by simpa using hk)]
      exact List.mem_append_right _ List.mem_cons_self
    · exact ih hrest hm _

theorem ne_empty_of_mem_put {d : List (String × Json)} (h : ∀ p ∈ d, p.1 ≠ "") (key : String) (v : Json) :
    ∀ p ∈ Bounds.resource.put d key v, p.1 ≠ "" := by
  rw [Bounds.put_resource]
  split
  · exact h
  · next hk =>
    intro p hp
    rcases List.mem_append.mp hp with hp | hp
    · exact h p (List.mem_filter.mp hp).1
    · rw [List.mem_singleton] at hp
      subst hp
      simpa using hk

theorem ne_empty_of_mem_fill (ms : List (String × Json)) : ∀ p ∈ Bounds.resource.fill ms, p.1 ≠ "" :=
  fill_invariant (by simp) (fun _ key v h => ne_empty_of_mem_put h key v) ms

/-- A resource made from values has nothing under the empty key. --/
theorem Resource.lookup_ofValues_empty (attrs : List (String × Json)) (schema : Json) :
    (Resource.ofValues attrs schema).attributes.lookup "" = none := by
  rw [List.lookup_eq_none_iff]
  intro p hp
  obtain ⟨m, hm, rfl⟩ := List.mem_map.mp hp
  simpa using Ne.symm (ne_empty_of_mem_fill attrs m hm)

/-! ### Facts under a key -/

/-- A fact stands for a value under a key: it is that value, or what the process detector is known
to find under the key, when that is the value. --/
def Fact.StandsFor (k : String) : Fact → Json → Prop
  | .value v, w => v = w
  | .process, w => ∃ s, w = .str s ∧ Resource.knownProcessText k = some s
  | .instanceId, _ => False

namespace Resource

theorem standsFor_settledFact (k : String) (old : Fact) (v : Json) :
    (settledFact k old (.value v)).StandsFor k v := by
  cases old with
  | process =>
    cases v with
    | str s =>
      simp only [settledFact]
      split
      · next h => exact ⟨s, rfl, by simpa using h⟩
      · rfl
    | _ => rfl
  | _ => rfl

theorem lookup_settle_self (k : String) (f : Fact) :
    ∀ l : List (String × Fact),
      (l.map fun a => if a.1 == k then (k, settledFact k a.2 f) else a).lookup k = (l.lookup k).map (settledFact k · f)
  | [] => rfl
  | (ka, fa) :: l => by
    by_cases ha : ka = k
    · subst ha
      simp
    · have hb : (ka == k) = false := beq_false_of_ne ha
      have hb' : (k == ka) = false := beq_false_of_ne (Ne.symm ha)
      simp only [List.map_cons, hb, Bool.false_eq_true, if_false, List.lookup_cons, hb']
      exact lookup_settle_self k f l

theorem lookup_settle_ne {k k' : String} (f : Fact) (h : k' ≠ k) :
    ∀ l : List (String × Fact),
      (l.map fun a => if a.1 == k then (k, settledFact k a.2 f) else a).lookup k' = l.lookup k'
  | [] => rfl
  | (ka, fa) :: l => by
    by_cases ha : ka = k
    · subst ha
      have hb : (k' == ka) = false := beq_false_of_ne h
      simp only [List.map_cons, beq_self_eq_true, if_true, List.lookup_cons, hb]
      exact lookup_settle_ne f h l
    · have hb : (ka == k) = false := beq_false_of_ne ha
      simp only [List.map_cons, hb, Bool.false_eq_true, if_false, List.lookup_cons]
      rw [lookup_settle_ne f h l]

theorem lookup_setFact_self (as : List (String × Fact)) (k : String) (f : Fact) :
    (setFact as k f).lookup k = some ((as.lookup k).elim f fun old => settledFact k old f) := by
  unfold setFact
  split
  · next hany =>
    rw [lookup_settle_self]
    obtain ⟨a, ha, hk⟩ := List.any_eq_true.mp hany
    cases hl : as.lookup k with
    | none =>
      -- the key is there, so its lookup finds something
      have hne := List.lookup_eq_none_iff.mp hl a ha
      have hak : a.1 = k := by simpa using hk
      simp [hak] at hne
    | some old => rfl
  · next hany =>
    have hl : as.lookup k = none := List.lookup_eq_none_iff.mpr fun a ha => by
      have : ¬ (a.1 == k) = true := fun h => hany (List.any_eq_true.mpr ⟨a, ha, h⟩)
      exact bne_iff_ne.mpr (Ne.symm (by simpa using this))
    simp [List.lookup_append, hl]

theorem lookup_setFact_ne (as : List (String × Fact)) {k k' : String} (f : Fact) (h : k' ≠ k) :
    (setFact as k f).lookup k' = as.lookup k' := by
  unfold setFact
  split
  · exact lookup_settle_ne f h as
  · have hlast : [(k, f)].lookup k' = none := by simp [List.lookup_cons, beq_false_of_ne h]
    rw [List.lookup_append, hlast, Option.or_none]

/-- A key that no later attribute sets keeps its fact. --/
theorem lookup_updateFacts_of_ne {k : String} :
    ∀ {a b : List (String × Fact)}, (∀ p ∈ b, p.1 ≠ k) → (updateFacts a b).lookup k = a.lookup k
  | _, [], _ => rfl
  | a, p :: b, h => by
    show (updateFacts (setFact a p.1 p.2) b).lookup k = _
    rw [lookup_updateFacts_of_ne fun q hq => h q (List.mem_cons_of_mem _ hq),
      lookup_setFact_ne _ _ (Ne.symm (h p List.mem_cons_self))]

/-- A value set under a key, by attributes that set each key once, is what the key stands for. --/
theorem lookup_updateFacts_of_mem {k : String} {v : Json} :
    ∀ {a b : List (String × Fact)}, (b.map Prod.fst).Nodup → (k, .value v) ∈ b →
      ∃ f, (updateFacts a b).lookup k = some f ∧ f.StandsFor k v
  | _, [], _, hm => by cases hm
  | a, p :: b, hn, hm => by
    obtain ⟨hnot, hrest⟩ := List.nodup_cons.mp hn
    show ∃ f, (updateFacts (setFact a p.1 p.2) b).lookup k = some f ∧ f.StandsFor k v
    rcases List.mem_cons.mp hm with rfl | hm
    · rw [lookup_updateFacts_of_ne (ne_of_not_mem_keys hnot), lookup_setFact_self]
      refine ⟨_, rfl, ?_⟩
      cases a.lookup k with
      | none => rfl
      | some old => exact standsFor_settledFact k old v
    · exact lookup_updateFacts_of_mem hrest hm

/-! ### Merging under agreeing schemas -/

/-- A schema URL agrees with the text `u`: it is empty, or it is `u`. --/
def Agrees (u : String) (s : Json) : Prop := s = .str "" ∨ s = .str u

theorem noSchema_str_iff (s : String) : noSchema (.str s) = true ↔ s = "" := by
  by_cases hs : s = ""
  · subst hs
    simp [noSchema]
  · simp only [hs, iff_false]
    unfold noSchema
    split
    · next h => exact absurd (Json.str.inj h) hs
    · simp

/-- Merging resources whose schemas agree updates the attributes and keeps a schema that is set. --/
theorem merge_of_agrees {u : String} {a b : Resource} (ha : Agrees u a.schemaUrl) (hb : Agrees u b.schemaUrl) :
    a.merge b =
      ⟨updateFacts a.attributes b.attributes, if noSchema b.schemaUrl then a.schemaUrl else b.schemaUrl⟩ := by
  obtain ⟨as, sa⟩ := a
  obtain ⟨bs, sb⟩ := b
  by_cases hu : u = ""
  · -- only empty schemas agree with the empty text
    subst hu
    obtain rfl : sa = .str "" := ha.elim id id
    obtain rfl : sb = .str "" := hb.elim id id
    simp [merge, noSchema]
  · have hz : noSchema (.str "") = true := rfl
    have hn : noSchema (.str u) = false := by simpa using (noSchema_str_iff u).not.mpr hu
    rcases ha with rfl | rfl <;> rcases hb with rfl | rfl
    · simp [merge, hz]
    · simp [merge, hz, hn]
    · simp [merge, hz, hn]
    · simp [merge, hn, sameSchema, Json.sameValue_self_text]

theorem agrees_merge {u : String} {a b : Resource} (ha : Agrees u a.schemaUrl) (hb : Agrees u b.schemaUrl) :
    Agrees u (a.merge b).schemaUrl := by
  rw [merge_of_agrees ha hb]
  dsimp only
  split
  · exact ha
  · exact hb

/-- Resources merged in turn under agreeing schemas: each one's attributes update the ones before. --/
theorem foldl_merge_of_agrees {u : String} :
    ∀ (rs : List Resource) {a : Resource}, Agrees u a.schemaUrl → (∀ r ∈ rs, Agrees u r.schemaUrl) →
      (rs.foldl merge a).attributes = rs.foldl (fun acc r => updateFacts acc r.attributes) a.attributes ∧
        Agrees u (rs.foldl merge a).schemaUrl
  | [], _, ha, _ => ⟨rfl, ha⟩
  | r :: rs, a, ha, hrs => by
    have hr := hrs r List.mem_cons_self
    obtain ⟨hattrs, hschema⟩ :=
      foldl_merge_of_agrees rs (agrees_merge ha hr) fun r' h => hrs r' (List.mem_cons_of_mem _ h)
    refine ⟨?_, hschema⟩
    rw [List.foldl_cons, List.foldl_cons, hattrs, merge_of_agrees ha hr]

end Resource

end Telemetry.Pipeline

namespace Telemetry.Assembly

open Pipeline Components Model Resource

/-! ### Checked values are kept as they are -/

theorem cleanExtended_coerceScalar {name : String} {t : AttributeType} {v w : Json}
    (h : coerceScalar name t v = .ok w) : cleanExtended none w = w := by
  unfold coerceScalar at h
  split at h
  · cases h; simp [cleanExtended, clip]
  · cases h; simp [cleanExtended, clip]
  · cases h; simp [cleanExtended, clip]
  · cases h; simp [cleanExtended, clip]
  · split at h
    · cases h; simp [cleanExtended, clip]
    · cases h
  · cases h

theorem extendedItems_coerceItems {name : String} {t : AttributeType} :
    ∀ {xs ys : List Json}, coerceItems name t xs = .ok ys → extendedItems none ys = ys
  | [], ys, h => by cases h; rfl
  | x :: xs, ys, h => by
    simp only [coerceItems] at h
    obtain ⟨y, hy, h⟩ := except_bind_eq_ok h
    obtain ⟨ys', hys, h⟩ := except_bind_eq_ok h
    cases h
    simp only [extendedItems, cleanExtended_coerceScalar hy, extendedItems_coerceItems hys]

/-- A value checked against its declared type is stored as it is. --/
theorem cleanExtended_coerceAttribute {a : AttributeEntry} {v : Json} (h : coerceAttribute a = .ok v) :
    cleanExtended none v = v := by
  unfold coerceAttribute at h
  split at h
  · next t _ =>
    split at h
    · next xs _ =>
      cases hc : coerceItems a.name t xs with
      | error e => rw [hc] at h; cases h
      | ok ys =>
        rw [hc] at h
        cases h
        simp only [cleanExtended, extendedItems_coerceItems hc]
    · cases h
  · exact cleanExtended_coerceScalar h

/-! ### The layers of a resource -/

/-- The schema URL a section gives its own attributes; an unset one is empty. --/
def sectionSchema (sec : ResourceSection) : Json := .str (sec.schemaUrl.getD "")

/-- The resource of a section: the defaults, then what was detected, then the section's own
attributes with its schema URL, each merged onto the one below. --/
def layered (detections : List Resource) (attrs : Members) (schema : Json) : Resource :=
  (Resource.defaults.merge (detections.foldl Resource.merge Resource.empty)).merge (Resource.ofValues attrs schema)

section Agreeing

variable {u : String} {rs : List Resource} {attrs : Members} {schema : Json}

/-- Under agreeing schemas the layers stack: the defaults, updated by each detection in turn, then
by the section's attributes. --/
theorem layered_of_agrees (hd : ∀ r ∈ rs, Agrees u r.schemaUrl) (hs : Agrees u schema) :
    (layered rs attrs schema).attributes =
      updateFacts (updateFacts Resource.defaults.attributes (rs.foldl (fun acc r => updateFacts acc r.attributes) []))
        (Resource.ofValues attrs schema).attributes ∧
    (noSchema schema = false → (layered rs attrs schema).schemaUrl = schema) := by
  have hempty : Agrees u Resource.empty.schemaUrl := .inl rfl
  have hdefaults : Agrees u Resource.defaults.schemaUrl := .inl rfl
  obtain ⟨hdetected, hagree⟩ := foldl_merge_of_agrees rs hempty hd
  have hlower := agrees_merge hdefaults hagree
  unfold layered
  rw [merge_of_agrees hlower hs, merge_of_agrees hdefaults hagree]
  refine ⟨by rw [hdetected]; rfl, fun hn => ?_⟩
  simp [Resource.ofValues, hn]

/-- Every member the section writes under a non-empty key stands in the resource for its value. --/
theorem standsFor_layered (hd : ∀ r ∈ rs, Agrees u r.schemaUrl) (hs : Agrees u schema)
    (hn : (attrs.map Prod.fst).Nodup) {k : String} {v : Json} (hm : (k, v) ∈ attrs) (hk : k ≠ "") :
    ∃ f, (layered rs attrs schema).attributes.lookup k = some f ∧ f.StandsFor k (cleanExtended none v) := by
  rw [(layered_of_agrees hd hs).1]
  apply lookup_updateFacts_of_mem
  · simpa [Resource.ofValues, List.map_map, Function.comp_def] using nodup_fill attrs
  · exact List.mem_map_of_mem (f := fun m => (m.1, Fact.value m.2)) (mem_fill hn hm hk)

end Agreeing

/-- A detection whose schema URL differs from the section's non-empty one keeps the section's
attributes out: the resource is the defaults and what was detected. --/
theorem layered_conflict {rs : List Resource} {attrs : Members} {schema : Json}
    (hd : noSchema (rs.foldl Resource.merge Resource.empty).schemaUrl = false) (hs : noSchema schema = false)
    (hsame : sameSchema (rs.foldl Resource.merge Resource.empty).schemaUrl schema = false) :
    layered rs attrs schema = Resource.defaults.merge (rs.foldl Resource.merge Resource.empty) := by
  unfold layered
  apply merge_conflict _ _ _ hs
  · exact hsame
  · exact hd

/-! ### Running the detectors -/

theorem runDetectors_eq (ctx : Context) (detectors : List ComponentRef) :
    runDetectors ctx detectors = (fun rs => rs.foldl Resource.merge Resource.empty) <$> detectors.mapM (detectOne ctx) := by
  unfold runDetectors
  dsimp only
  rw [forIn_store _ (detectOne ctx) Resource.merge, bind_pure]
  intro c detected
  rw [map_eq_pure_bind]

/-! ### The resource of a document -/

theorem run_map {α β : Type} (f : α → β) (x : Build α) (b : Bench) :
    (f <$> x).run.run b = match x.run.run b with
      | (.ok a, b') => (.ok (f a), b')
      | (.error e, b') => (.error e, b') := by
  rw [map_eq_pure_bind, run_bind]
  rcases x.run.run b with ⟨_ | _, _⟩ <;> rfl

theorem run_ofExcept {α : Type} (e : Except Fault α) (b : Bench) : (Build.ofExcept e).run.run b = (e, b) := by
  cases e <;> rfl

/-- What the detectors of a section detect, in their order, run from a bench. --/
def Detected (ctx : Context) (sec : ResourceSection) (b : Bench) (rs : List Resource) : Prop :=
  match sec.detection with
  | some d => ∃ b', (d.detectors.mapM (detectOne ctx)).run.run b = (.ok rs, b')
  | none => rs = []

/-- After the detections, a section's resource is its layers, when its attributes are written. --/
theorem run_layers_eq_ok {sec : ResourceSection} {detected r : Resource} {b b' : Bench}
    (h : (sectionAttributes sec >>= fun attrs => pure ((Resource.defaults.merge detected).merge
      (Resource.ofValues attrs (.str (sec.schemaUrl.getD ""))))).run.run b = (.ok r, b')) :
    ∃ attrs, writtenAttributes sec = .ok attrs ∧
      r = (Resource.defaults.merge detected).merge (Resource.ofValues attrs (sectionSchema sec)) := by
  rw [run_bind, sectionAttributes_eq, run_ofExcept] at h
  cases hw : writtenAttributes sec with
  | error e => rw [hw] at h; cases h
  | ok attrs =>
    rw [hw] at h
    cases h
    exact ⟨attrs, rfl, rfl⟩

/-- A resolved section is its layers: the detections in order, then the attributes it writes. --/
theorem run_resolveResource_eq_ok {ctx : Context} {sec : ResourceSection} {r : Resource} {b b' : Bench}
    (h : (resolveResource ctx (some sec)).run.run b = (.ok r, b')) :
    ∃ rs attrs, Detected ctx sec b rs ∧ writtenAttributes sec = .ok attrs ∧ r = layered rs attrs (sectionSchema sec) := by
  simp only [resolveResource] at h
  unfold Detected
  cases hd : sec.detection with
  | none =>
    simp only [hd, pure_bind] at h
    obtain ⟨attrs, hw, rfl⟩ := run_layers_eq_ok h
    exact ⟨[], attrs, rfl, hw, rfl⟩
  | some d =>
    simp only [hd] at h
    rw [run_bind, runDetectors_eq, run_map] at h
    cases hm : (d.detectors.mapM (detectOne ctx)).run.run b with
    | mk res b₁ =>
      cases res with
      | error e => rw [hm] at h; cases h
      | ok rs =>
        rw [hm] at h
        obtain ⟨attrs, hw, rfl⟩ := run_layers_eq_ok h
        exact ⟨rs, attrs, ⟨b₁, hm⟩, hw, rfl⟩

/-- The precedence of a section's layers: the defaults, updated by each detection in turn, then by
the attributes the section writes; so each entry that is last of its name, and each listed key
that no entry names, stands in the resource for its value, and a schema URL the section sets is
the resource's. --/
structure Precedence (sec : ResourceSection) (rs : List Resource) (r : Resource) : Prop where
  attributes : ∃ attrs, Writes sec attrs ∧ r.attributes =
    updateFacts (updateFacts Resource.defaults.attributes (rs.foldl (fun acc d => updateFacts acc d.attributes) []))
      (Resource.ofValues attrs (sectionSchema sec)).attributes
  entry : ∀ pre a post, sec.attributes = pre ++ a :: post → (∀ a' ∈ post, a'.name ≠ a.name) → a.name ≠ "" →
    ∃ v f, coerceAttribute a = .ok v ∧ r.attributes.lookup a.name = some f ∧ f.StandsFor a.name v
  listed : ∀ listed, parseKeyValueList sec.attributesList "resource attribute" = .ok listed →
    ∀ k s, (k, s) ∈ listed → (∀ a ∈ sec.attributes, a.name ≠ k) → k ≠ "" →
      ∃ f, r.attributes.lookup k = some f ∧ f.StandsFor k (.str s)
  schema : ∀ s, sec.schemaUrl = some s → s ≠ "" → r.schemaUrl = .str s

theorem precedence_of_agrees {sec : ResourceSection} {rs : List Resource} {attrs : Members} {u : String}
    (hw : writtenAttributes sec = .ok attrs) (hd : ∀ r ∈ rs, Agrees u r.schemaUrl)
    (hs : Agrees u (sectionSchema sec)) : Precedence sec rs (layered rs attrs (sectionSchema sec)) := by
  have hwrites := writes_of_written hw
  obtain ⟨hattrs, hschema⟩ := @layered_of_agrees u rs attrs (sectionSchema sec) hd hs
  refine ⟨⟨attrs, hwrites, hattrs⟩, ?_, ?_, ?_⟩
  · intro pre a post hsplit hpost hname
    obtain ⟨v, hv, hget⟩ := hwrites.entry pre a post hsplit hpost
    obtain ⟨f, hf, hstands⟩ := standsFor_layered hd hs hwrites.distinct (Members.mem_of_get? hget) hname
    rw [cleanExtended_coerceAttribute hv] at hstands
    exact ⟨v, f, hv, hf, hstands⟩
  · intro listed hp k s hks hk hne
    have hget := hwrites.listed listed hp k s hks hk
    exact standsFor_layered hd hs hwrites.distinct (Members.mem_of_get? hget) hne
  · intro s hsome hne
    have hsec : sectionSchema sec = .str s := by simp [sectionSchema, hsome]
    rw [hsec] at hschema ⊢
    exact hschema (by simpa using (noSchema_str_iff s).not.mpr hne)

/-- A resolved section: its layers stack by precedence whenever all the schema URLs agree, and a
detection whose schema URL differs from the section's keeps every attribute of the section out. --/
structure Layered (sec : ResourceSection) (rs : List Resource) (r : Resource) : Prop where
  agree : ∀ u, (∀ d ∈ rs, Agrees u d.schemaUrl) → Agrees u (sectionSchema sec) → Precedence sec rs r
  conflict : noSchema (rs.foldl Resource.merge Resource.empty).schemaUrl = false →
    noSchema (sectionSchema sec) = false →
    sameSchema (rs.foldl Resource.merge Resource.empty).schemaUrl (sectionSchema sec) = false →
    r = Resource.defaults.merge (rs.foldl Resource.merge Resource.empty)

theorem resolveResource_layers (ctx : Context) (b : Bench) :
    (resolveResource ctx none).run.run b = (.ok Resource.defaults, b) ∧
    ∀ sec r b', (resolveResource ctx (some sec)).run.run b = (.ok r, b') →
      ∃ rs, Detected ctx sec b rs ∧ Layered sec rs r := by
  refine ⟨rfl, fun sec r b' h => ?_⟩
  obtain ⟨rs, attrs, hdet, hw, rfl⟩ := run_resolveResource_eq_ok h
  exact ⟨rs, hdet, fun u hd hs => precedence_of_agrees hw hd hs, layered_conflict⟩

theorem resolveResource_layers_written :
    (resolveResource ⟨scriptedRegistry, FileSystem.host⟩ none).run.run Bench.start = (.ok Resource.defaults, Bench.start) ∧
    ∃ r b', (resolveResource ⟨scriptedRegistry, FileSystem.host⟩
        (some ⟨[⟨"x", .str "doc", .string⟩], none, some "https://b", none⟩)).run.run Bench.start = (.ok r, b') ∧
      ∃ rs, Detected ⟨scriptedRegistry, FileSystem.host⟩ ⟨[⟨"x", .str "doc", .string⟩], none, some "https://b", none⟩
        Bench.start rs ∧ Layered ⟨[⟨"x", .str "doc", .string⟩], none, some "https://b", none⟩ rs r :=
  ⟨(resolveResource_layers _ _).1, _, _, rfl, (resolveResource_layers _ _).2 _ _ _ rfl⟩

/-- A recording detector that reports `x` under another schema URL than the section's: the section's
own `x` is not in the resource, which holds the detected value under the detector's schema URL. --/
theorem resolveResource_schema_conflict :
    ∃ r b', (resolveResource ⟨scriptedRegistry, FileSystem.host⟩
        (some ⟨[⟨"x", .str "doc", .string⟩], none, some "https://b",
          some ⟨[⟨"recording", [("attributes", .obj [("x", .str "det")]), ("schema_url", .str "https://a")]⟩]⟩⟩)).run.run
        Bench.start = (.ok r, b') ∧
      r.attributes.lookup "x" = some (.value (.str "det")) ∧ r.schemaUrl = .str "https://a" :=
  ⟨_, _, rfl, rfl, rfl⟩

end Telemetry.Assembly
