import Telemetry.Proofs.StageRecords
import Telemetry.Proofs.Loops

/-!
The order in which a stage is resolved.

Resolving a stage runs on fuel, but the fuel never runs out: any fuel above the depth of the
stage's configuration gives the same answer (`resolveStage_eq_of_depth_lt`), since a nested
reference is read from a member of the configuration and so lies deeper in the document
(`depth_config_lt_of_read`). Freed from its fuel, resolution is one stage (`stageSpec`) over the
resolution of the nested references: these first, in the nesting's order, each to its end with its
own nested references and ledger steps; then the stage's factory, once, on its configuration with
the built components in place of the references and every other value as written; then the
stage's own ledger steps. Resolution is the only function that is (`eq_resolveComponent_of_unfold`).
-/

namespace Telemetry.Assembly

open Pipeline Components Model Schema

/-! ### Nested references lie deeper -/

theorem depth_pos : ∀ v : Json, 0 < depth v
  | .arr _ | .obj _ => Nat.succ_pos _
  | .null | .bool _ | .int _ | .float _ | .str _ => Nat.one_pos

theorem depth_empty_lt {ms : Members} (h : ms ≠ []) : depth (.obj []) < depth (.obj ms) := by
  obtain ⟨m, rest, rfl⟩ := List.exists_cons_of_ne_nil h
  calc depth (.obj []) = 1 := rfl
    _ ≤ depth m.2 := depth_pos m.2
    _ < depth (.obj (m :: rest)) := depth_lt_member m.1 m.2 _ List.mem_cons_self

theorem ComponentRef.ofParts_eq_ok {k : String} {v : Json} {n : ComponentRef}
    (h : ComponentRef.ofParts k v = .ok n) : n.config = [] ∨ v = .obj n.config := by
  unfold ComponentRef.ofParts at h
  split at h
  · obtain ⟨ms, hms, rfl⟩ := Checked.map_eq_ok h
    have hv := Checked.under_eq_ok hms
    cases v with
    | obj o =>
      cases hv
      exact .inr rfl
    | _ => cases hv
  · cases h
    exact .inl rfl

theorem ComponentRef.read_config {ms : Members} {n : ComponentRef} (h : ComponentRef.read (.obj ms) = .ok n) :
    ms ≠ [] ∧ (n.config = [] ∨ ∃ k, (k, .obj n.config) ∈ ms) := by
  simp only [ComponentRef.read] at h
  split at h
  · next name hname =>
    have hne : ms ≠ [] := by
      rintro rfl
      cases hname
    refine ⟨hne, ?_⟩
    cases hc : Members.get? ms "config" with
    | none =>
      rw [hc] at h
      rcases ofParts_eq_ok h with hempty | hv
      · exact .inl hempty
      · cases hv
    | some v =>
      rw [hc] at h
      rcases ofParts_eq_ok h with hempty | hv
      · exact .inl hempty
      · have hv : v = .obj n.config := hv
        exact .inr ⟨"config", hv ▸ Members.mem_of_get? hc⟩
  · split at h
    · next k v _ =>
      refine ⟨List.cons_ne_nil _ _, ?_⟩
      rcases ofParts_eq_ok h with hempty | hv
      · exact .inl hempty
      · exact .inr ⟨k, hv ▸ List.mem_cons_self⟩
    · cases h

theorem depth_config_lt_of_read {ms : Members} {n : ComponentRef} (h : ComponentRef.read (.obj ms) = .ok n) :
    depth (.obj n.config) < depth (.obj ms) := by
  obtain ⟨hne, hempty | ⟨k, hk⟩⟩ := ComponentRef.read_config h
  · rw [hempty]
    exact depth_empty_lt hne
  · exact depth_lt_member k _ ms hk

/-! ### One stage -/

/-- A nested reference of a stage: the key it is written under, the mapping written there, and the
extension point it is resolved under. --/
structure NestedRef where
  key : String
  members : Members
  cap : Capability

/-- The nested reference a nesting entry names in a configuration, when its key holds a mapping. --/
def nestedRef? (ms : Members) (e : String × Capability) : Option NestedRef :=
  match Members.get? ms e.1 with
  | some (.obj o) => some ⟨e.1, o, e.2⟩
  | _ => none

/-- The nested references of a configuration, in the nesting's order. --/
def nestedRefs (ms : Members) (nesting : List (String × Capability)) : List NestedRef :=
  nesting.filterMap (nestedRef? ms)

/-- The slot of a configuration entry once the built components are in place: the last one built
under its key, or else the value written there. --/
def slotAfter (built : List (String × Slot)) (m : String × Json) : Slot :=
  built.foldl (fun t p => if p.1 = m.1 then p.2 else t) (.data m.2)

/-- A configuration with each built component in place of what was written under its key, every
other value as written and every key where it was. --/
def withBuilt (ms : Members) (built : List (String × Slot)) : Config :=
  ms.map fun m => (.str m.1, slotAfter built m)

theorem foldl_slot_of_ne {k : String} {built : List (String × Slot)} (h : ∀ p ∈ built, p.1 ≠ k) (t : Slot) :
    built.foldl (fun t p => if p.1 = k then p.2 else t) t = t := by
  induction built generalizing t with
  | nil => rfl
  | cons p built ih =>
    rw [List.foldl_cons, if_neg (h p List.mem_cons_self)]
    exact ih (fun q hq => h q (List.mem_cons_of_mem _ hq)) t

/-- An entry whose key nothing was built under keeps the value written there. --/
theorem slotAfter_of_not_built {built : List (String × Slot)} {m : String × Json} (h : ∀ p ∈ built, p.1 ≠ m.1) :
    slotAfter built m = .data m.2 :=
  foldl_slot_of_ne h _

/-- An entry holds the last component built under its key. --/
theorem slotAfter_of_last {pre post : List (String × Slot)} {m : String × Json} {s : Slot}
    (h : ∀ p ∈ post, p.1 ≠ m.1) : slotAfter (pre ++ (m.1, s) :: post) m = s := by
  unfold slotAfter
  rw [List.foldl_append, List.foldl_cons, if_pos rfl]
  exact foldl_slot_of_ne h s

/-- One stage, given how nested references are resolved: each nested reference in the nesting's
order, read and resolved (with the nesting itself only when it is of the stage's own extension
point); then the stage's factory, once, on the configuration with the built components in place;
then the stage's ledger steps. --/
def stageSpec (ctx : Context) (sub : Capability → ComponentRef → List (String × Capability) → Build Slot)
    (cap : Capability) (c : ComponentRef) (nesting : List (String × Capability)) : Build Slot := do
  let refs := nestedRefs c.config nesting
  let slots ← refs.mapM fun r => do
    let n ← parseComponent (.obj r.members) (c.name ++ "." ++ r.key)
    sub r.cap n (if r.cap == cap then nesting else [])
  let config := withBuilt c.config ((refs.map (·.key)).zip slots)
  let inst ← resolve ctx.files ctx.registry cap c.name config
  recordStage cap c.name nesting config inst
  pure inst

/-- A stage without a shutdown is not recorded: nothing is acquired and nothing adopted. --/
theorem run_recordStage_of_not_closeable {cap : Capability} {name : String} {nesting : List (String × Capability)}
    {config : Config} {inst : Slot} {b : Bench} (h : closeableOn b inst = false) :
    (recordStage cap name nesting config inst).run.run b = (.ok (), b) := by
  simp only [recordStage, run_bind, run_isCloseable]
  rw [show ((b.roleOf inst).map Role.closeable).getD false = false from h]
  rfl

theorem Config.insert_map {ms : Members} {f : String × Json → Slot} {k : String}
    (hk : ms.any (·.1 == k) = true) (s : Slot) :
    Config.insert (ms.map fun m => (Json.str m.1, f m)) k s =
      ms.map fun m => (Json.str m.1, if k = m.1 then s else f m) := by
  unfold Config.insert
  rw [if_pos (by simpa [List.any_map, Function.comp_def, isTextKey] using hk), List.map_map]
  congr 1
  funext m
  by_cases hm : k = m.1
  · simp [hm, isTextKey]
  · simp [hm, isTextKey, Ne.symm hm]

theorem foldl_insert_map {ms : Members} (built : List (String × Slot))
    (hb : ∀ p ∈ built, ms.any (·.1 == p.1) = true) (f : String × Json → Slot) :
    built.foldl (fun cfg p => Config.insert cfg p.1 p.2) (ms.map fun m => (Json.str m.1, f m)) =
      ms.map fun m => (Json.str m.1, built.foldl (fun t p => if p.1 = m.1 then p.2 else t) (f m)) := by
  induction built generalizing f with
  | nil => rfl
  | cons p built ih =>
    simp only [List.foldl_cons]
    rw [Config.insert_map (hb p List.mem_cons_self)]
    exact ih (fun q hq => hb q (List.mem_cons_of_mem _ hq)) _

theorem mem_nestedRefs {ms : Members} {nesting : List (String × Capability)} {r : NestedRef}
    (h : r ∈ nestedRefs ms nesting) : Members.get? ms r.key = some (.obj r.members) ∧ (r.key, r.cap) ∈ nesting := by
  obtain ⟨e, he, hr⟩ := List.mem_filterMap.mp h
  unfold nestedRef? at hr
  split at hr
  · next o ho =>
    cases hr
    exact ⟨ho, he⟩
  · cases hr

theorem withBuilt_eq_foldl (ms : Members) (refs : List NestedRef)
    (hrefs : ∀ r ∈ refs, ∃ v, Members.get? ms r.key = some v) (slots : List Slot) :
    (refs.zip slots).foldl (fun cfg p => Config.insert cfg p.1.key p.2) (Config.ofMembers ms) =
      withBuilt ms ((refs.map (·.key)).zip slots) := by
  have hkeys : ∀ p ∈ (refs.map (·.key)).zip slots, ms.any (·.1 == p.1) = true := by
    intro p hp
    obtain ⟨r, hr, hk⟩ := List.mem_map.mp (List.of_mem_zip hp).1
    obtain ⟨v, hv⟩ := hrefs r hr
    exact List.any_eq_true.mpr ⟨_, Members.mem_of_get? hv, by simp [hk]⟩
  have hzip : (refs.zip slots).foldl (fun cfg p => Config.insert cfg p.1.key p.2) (Config.ofMembers ms) =
      ((refs.map (·.key)).zip slots).foldl (fun cfg p => Config.insert cfg p.1 p.2) (Config.ofMembers ms) := by
    rw [List.zip_map_left, List.foldl_map]
    rfl
  rw [hzip]
  exact foldl_insert_map _ hkeys (fun m => .data m.2)

/-- With fuel left, resolving a stage is one stage over resolution with one unit less. --/
theorem resolveStage_succ (ctx : Context) (fuel : Nat) (cap : Capability) (c : ComponentRef)
    (nesting : List (String × Capability)) :
    resolveStage ctx (fuel + 1) cap c nesting = stageSpec ctx (resolveStage ctx fuel) cap c nesting := by
  rw [resolveStage.eq_2, forIn_pick nesting (nestedRef? c.config)
    (fun r => do
      let n ← parseComponent (.obj r.members) (c.name ++ "." ++ r.key)
      resolveStage ctx fuel r.cap n (if r.cap == cap then nesting else []))
    (fun cfg r s => Config.insert cfg r.key s)]
  · simp only [stageSpec, bind_map_left]
    refine bind_congr fun slots => ?_
    rw [← withBuilt_eq_foldl c.config (nestedRefs c.config nesting) (fun r hr => ⟨_, (mem_nestedRefs hr).1⟩)]
    rfl
  · intro a r
    obtain ⟨k, X⟩ := a
    simp only [nestedRef?]
    cases Members.get? c.config k with
    | none => rfl
    | some v => cases v <;> simp

/-! ### Fuel -/

private theorem mapM_congr_mem {m : Type → Type} [Monad m] [LawfulMonad m] {α β : Type} {f g : α → m β} :
    ∀ {l : List α}, (∀ a ∈ l, f a = g a) → l.mapM f = l.mapM g
  | [], _ => rfl
  | a :: l, h => by
    rw [List.mapM_cons, List.mapM_cons, h a List.mem_cons_self,
      mapM_congr_mem fun b hb => h b (List.mem_cons_of_mem _ hb)]

theorem parseComponent_bind_congr {α : Type} {v : Json} {place : String} {k k' : ComponentRef → Build α}
    (h : ∀ n, ComponentRef.read v = .ok n → k n = k' n) :
    (parseComponent v place >>= k) = (parseComponent v place >>= k') := by
  unfold parseComponent
  split
  · next n hn =>
    simp only [pure_bind]
    exact h n hn
  · rfl

/-- A stage depends on how nested references are resolved only for configurations less deep than
its own. --/
theorem stageSpec_congr {ctx : Context} {sub sub' : Capability → ComponentRef → List (String × Capability) → Build Slot}
    {cap : Capability} {c : ComponentRef} {nesting : List (String × Capability)}
    (h : ∀ X n N, depth (.obj n.config) < depth (.obj c.config) → sub X n N = sub' X n N) :
    stageSpec ctx sub cap c nesting = stageSpec ctx sub' cap c nesting := by
  dsimp only [stageSpec]
  congr 1
  apply mapM_congr_mem
  intro r hr
  apply parseComponent_bind_congr
  intro n hn
  apply h
  calc depth (.obj n.config) < depth (.obj r.members) := depth_config_lt_of_read hn
    _ < depth (.obj c.config) := depth_lt_member r.key _ _ (Members.mem_of_get? (mem_nestedRefs hr).1)

/-- Any fuel above the depth of a stage's configuration gives the same answer. --/
theorem resolveStage_eq_of_depth_lt (ctx : Context) :
    ∀ (fuel fuel' : Nat) (cap : Capability) (c : ComponentRef) (nesting : List (String × Capability)),
      depth (.obj c.config) < fuel → depth (.obj c.config) < fuel' →
      resolveStage ctx fuel cap c nesting = resolveStage ctx fuel' cap c nesting
  | 0, _, _, _, _, h, _ => absurd h (Nat.not_lt_zero _)
  | _, 0, _, _, _, _, h' => absurd h' (Nat.not_lt_zero _)
  | fuel + 1, fuel' + 1, cap, c, nesting, h, h' => by
    rw [resolveStage_succ, resolveStage_succ]
    apply stageSpec_congr
    intro X n N hn
    exact resolveStage_eq_of_depth_lt ctx fuel fuel' X n N (by omega) (by omega)

/-- Resolution is one stage over itself. --/
theorem resolveComponent_unfold (ctx : Context) (cap : Capability) (c : ComponentRef)
    (nesting : List (String × Capability)) :
    resolveComponent ctx cap c nesting = stageSpec ctx (resolveComponent ctx) cap c nesting := by
  show resolveStage ctx (depth (.obj c.config) + 1 + 1) cap c nesting = _
  rw [resolveStage_succ]
  apply stageSpec_congr
  intro X n N hn
  exact resolveStage_eq_of_depth_lt ctx _ _ X n N (by omega) (by omega)

/-- Resolution is the only function that is one stage over itself. --/
theorem eq_resolveComponent_of_unfold {ctx : Context}
    {run : Capability → ComponentRef → List (String × Capability) → Build Slot}
    (h : ∀ cap c nesting, run cap c nesting = stageSpec ctx run cap c nesting) : run = resolveComponent ctx := by
  -- by strong induction on the depth of the configuration, which every nested reference lowers
  have agree : ∀ d cap (c : ComponentRef) nesting, depth (.obj c.config) < d →
      run cap c nesting = resolveComponent ctx cap c nesting := by
    intro d
    induction d with
    | zero => intro _ _ _ hd; exact absurd hd (Nat.not_lt_zero _)
    | succ d ih =>
      intro cap c nesting hd
      rw [h, resolveComponent_unfold]
      apply stageSpec_congr
      intro X n N hn
      exact ih X n N (by omega)
  funext cap c nesting
  exact agree _ cap c nesting (Nat.lt_succ_self _)

/-- How a stage is resolved: enough fuel never runs out, and resolution is one stage over itself,
as nothing else is. --/
structure DepthFirst (ctx : Context) (run : Capability → ComponentRef → List (String × Capability) → Build Slot) :
    Prop where
  fuel : ∀ fuel cap (c : ComponentRef) nesting, depth (.obj c.config) < fuel →
    resolveStage ctx fuel cap c nesting = run cap c nesting
  unfold : ∀ cap c nesting, run cap c nesting = stageSpec ctx run cap c nesting
  unique : ∀ run', (∀ cap c nesting, run' cap c nesting = stageSpec ctx run' cap c nesting) → run' = run

theorem resolveComponent_depthFirst (ctx : Context) : DepthFirst ctx (resolveComponent ctx) where
  fuel fuel cap c nesting h := resolveStage_eq_of_depth_lt ctx _ _ cap c nesting h (by omega)
  unfold := resolveComponent_unfold ctx
  unique _ h := eq_resolveComponent_of_unfold h

end Telemetry.Assembly
