import Telemetry.Proofs.BenchLaws

/-!
What resolving stages records on the ledger.

A component a factory just built is the one exception to a kept bench (`Kept`) for a moment: it
is the last component, not yet recorded (`Pending`). Recording it puts it on the ledger, and then
the ledger records every ownership but those the new component claims (`Recording`). Recording a
stage adopts the nested components of other extension points it was given, and among them are all
the components the stage is to own, its exporter; so the bench is kept again.

Resolving a stage keeps the bench kept, whether it succeeds or fails, and answers plain data or a
component that is not a limiting processor and that nothing is to own yet (`FreshFor`).
Components that nothing was to own before stay so (`Bench.FreeAmong`).
-/

namespace Telemetry.Assembly

open Pipeline Components

variable {α β : Type}

/-! ### Steps that keep a bench sane -/

/-- From a bench where `P` holds, the step only adds components; when it fails it leaves a sane
bench, and when it answers `a` a bench where `Q a` holds. --/
def Step (P : Bench → Prop) (x : Build α) (Q : α → Bench → Prop) : Prop :=
  ∀ b, P b → b.parts <+: (x.run.run b).2.parts ∧
    match (x.run.run b).1 with
    | .ok a => Q a (x.run.run b).2
    | .error _ => Sane (x.run.run b).2

namespace Step

variable {P P' : Bench → Prop} {Q Q' : α → Bench → Prop}

theorem bind {x : Build α} {f : α → Build β} {R : β → Bench → Prop} (hx : Step P x Q)
    (hf : ∀ a, Step (Q a) (f a) R) : Step P (x >>= f) R := by
  intro b hb
  obtain ⟨hp, hr⟩ := hx b hb
  rw [run_bind]
  rcases h : x.run.run b with ⟨e | a, b'⟩
  · rw [h] at hp hr
    exact ⟨hp, hr⟩
  · rw [h] at hp hr
    obtain ⟨hp', hr'⟩ := hf a b' hr
    exact ⟨hp.trans hp', hr'⟩

theorem pure {a : α} (h : ∀ b, P b → Q a b) : Step P (Pure.pure a) Q :=
  fun b hb => ⟨List.prefix_refl _, h b hb⟩

theorem throw {e : Fault} (h : ∀ b, P b → Sane b) : Step P (MonadExcept.throw e) Q :=
  fun b hb => ⟨List.prefix_refl _, h b hb⟩

theorem of_readOnly {x : Build α} (hx : ReadOnly x) (hs : ∀ b e, P b → (x.run.run b).1 = .error e → Sane b)
    (hq : ∀ b a, P b → (x.run.run b).1 = .ok a → Q a b) : Step P x Q := by
  intro b hb
  rw [hx b]
  refine ⟨List.prefix_refl _, ?_⟩
  split
  · next a h => exact hq b a hb h
  · next e h => exact hs b e hb h

theorem mono (hx : Step P x Q) (hP : ∀ b, P' b → P b) (hQ : ∀ a b, Q a b → Q' a b) : Step P' x Q' := by
  intro b hb
  obtain ⟨hp, hr⟩ := hx b (hP b hb)
  refine ⟨hp, ?_⟩
  split
  · next a h => rw [h] at hr; exact hQ a _ hr
  · next e h => rw [h] at hr; exact hr

theorem assume {x : Build α} {D : Prop} (h : D → Step P x Q) : Step (fun b => P b ∧ D) x Q :=
  fun b ⟨hb, hd⟩ => h hd b hb

/-- Reporting a step's errors anew keeps what the step promises. --/
theorem tryCatch {x : Build α} {h : Fault → Build α} (hx : Step P x Q)
    (hh : ∀ e, ∃ e', h e = MonadExcept.throw e') : Step P (tryCatch x h) Q := by
  intro b hb
  obtain ⟨hp, hr⟩ := hx b hb
  rw [run_tryCatch]
  rcases hres : x.run.run b with ⟨e | a, b'⟩
  · rw [hres] at hp hr
    obtain ⟨e', he⟩ := hh e
    dsimp only
    rw [he]
    exact ⟨hp, hr⟩
  · rw [hres] at hp hr
    exact ⟨hp, hr⟩

/-- A property that adding components keeps is kept by every step. --/
theorem frame (hx : Step P x Q) {F : Bench → Prop} (hF : ∀ b b', F b → b.parts <+: b'.parts → F b') :
    Step (fun b => P b ∧ F b) x (fun a b => Q a b ∧ F b) := by
  intro b ⟨hb, hfb⟩
  obtain ⟨hp, hr⟩ := hx b hb
  refine ⟨hp, ?_⟩
  split
  · next a h => rw [h] at hr; exact ⟨hr, hF _ _ hfb hp⟩
  · next e h => rw [h] at hr; exact hr

/-- A loop whose every round keeps `J` of the value it carries keeps it to the end. --/
theorem forIn {γ : Type} (xs : List γ) {f : γ → β → Build (ForInStep β)} {J : β → Bench → Prop}
    (hf : ∀ x ∈ xs, ∀ acc, Step (J acc) (f x acc) (fun st b => J st.value b)) (init : β) :
    Step (J init) (ForIn.forIn xs init f) J := by
  induction xs generalizing init with
  | nil => exact Step.pure fun _ h => h
  | cons x xs ih =>
    rw [List.forIn_cons]
    refine Step.bind (hf x List.mem_cons_self init) fun st => ?_
    cases st with
    | done acc => exact Step.pure fun _ h => h
    | yield acc => exact ih (fun y hy => hf y (List.mem_cons_of_mem x hy)) acc

/-- A loop whose round over each member keeps `J` of the members still to come keeps it to the
end; a round that stops the loop must leave `J` as at the end. --/
theorem forIn_rest {γ : Type} {f : γ → β → Build (ForInStep β)} {J : List γ → β → Bench → Prop}
    (hf : ∀ x rest acc, Step (J (x :: rest) acc) (f x acc) fun st b => match st with
      | .yield a => J rest a b
      | .done a => J [] a b) :
    ∀ (xs : List γ) (init : β), Step (J xs init) (ForIn.forIn xs init f) (J [])
  | [], _ => Step.pure fun _ h => h
  | x :: xs, init => by
    rw [List.forIn_cons]
    refine Step.bind (hf x xs init) fun st => ?_
    cases st with
    | done acc => exact Step.pure fun _ h => h
    | yield acc => exact forIn_rest hf xs acc

/-- Mapping a step over a list keeps `I` of the answers given so far. --/
theorem mapM {γ δ : Type} {I : List δ → Bench → Prop} {f : γ → Build δ}
    (hf : ∀ x ds, Step (I ds) (f x) (fun d b => I (ds ++ [d]) b)) :
    ∀ (xs : List γ) (ds : List δ), Step (I ds) (xs.mapM f) (fun ds' b => I (ds ++ ds') b)
  | [], ds => Step.pure fun b h => by simpa using h
  | x :: xs, ds => by
    rw [List.mapM_cons]
    refine Step.bind (hf x ds) fun d => ?_
    refine Step.bind (mapM hf xs (ds ++ [d])) fun ds' => ?_
    exact Step.pure fun b h => by rwa [List.append_assoc, List.singleton_append] at h

/-- Mapping a step that keeps `I` over a list keeps `I`. --/
theorem mapM_keeps {γ δ : Type} {I : Bench → Prop} {f : γ → Build δ} (hf : ∀ x, Step I (f x) (fun _ b => I b))
    (xs : List γ) : Step I (xs.mapM f) (fun _ b => I b) :=
  mapM (I := fun _ b => I b) (fun x _ => hf x) xs []

/-- What a step promises of a run that answers. --/
theorem of_run {x : Build α} (hx : Step P x Q) {b b' : Bench} {a : α} (hb : P b)
    (h : x.run.run b = (.ok a, b')) : b.parts <+: b'.parts ∧ Q a b' := by
  have hstep := hx b hb
  rw [h] at hstep
  exact hstep

end Step

/-! ### Ledger steps -/

theorem run_isCloseable (s : Slot) (b : Bench) :
    (isCloseable s).run.run b = (.ok (((b.roleOf s).map Role.closeable).getD false), b) := rfl

theorem run_adopt_part (c o : PartId) (b : Bench) :
    (adopt (.part c) (.part o)).run.run b = (.ok (), { b with ledger := b.ledger.adopt c o }) := rfl

theorem run_adopt_data (v : Json) (o : Slot) (b : Bench) : (adopt (.data v) o).run.run b = (.ok (), b) := rfl

theorem run_get (b : Bench) : (get : Build Bench).run.run b = (.ok b, b) := rfl

theorem run_acquire_part (id : PartId) (name : String) (b : Bench) :
    (acquire (.part id) name).run.run b =
      match b.ledger.acquire id (if ((b.roleOf (.part id)).map Role.closeable).getD false then some id else none)
          (b.className (.part id)) (.str name) with
      | .ok l => (.ok (), { b with ledger := l })
      | .error f => (.error (.failure f), b) := by
  simp only [acquire, run_bind, run_get]
  generalize b.ledger.acquire id _ _ _ = r
  cases r <;> rfl

/-! ### Recording a component -/

/-- A bench right after a factory answered `s`: kept, or kept but for `s`, the component just built
and not recorded yet, which is to own only components that `E` allows. --/
inductive Pending (E : PartId → Prop) : Slot → Bench → Prop
  | settled {s : Slot} {b : Bench} : Kept b → b.Plain s → Pending E s b
  | fresh {n : PartId} {b : Bench} : b.parts.length = n + 1 → b.ledger.closed = false →
      Ledger.Built Ledger.OwnerAfter b.ledger → b.Settled n → b.Plain (.part n) → b.OwnedBut none →
      b.Ordered → (∀ c, b.Claims n c → E c) → Pending E (.part n) b

theorem Pending.mono {E G : PartId → Prop} (hE : ∀ c, E c → G c) {s : Slot} {b : Bench}
    (h : Pending E s b) : Pending G s b := by
  cases h with
  | settled hk hp => exact .settled hk hp
  | fresh hlen ho hb hs hp hown hord hc => exact .fresh hlen ho hb hs hp hown hord fun c h => hE c (hc c h)

/-- A sane bench right after `s` was recorded: the ledger records every ownership but those `s`
claims, and each of those is recorded or of a component that `E` allows. --/
structure Recording (E : PartId → Prop) (s : Slot) (b : Bench) : Prop where
  sane : Sane b
  plain : b.Plain s
  ordered : b.Ordered
  owned : b.OwnedBut s.partId?
  claimed : ∀ n c, s = .part n → b.Claims n c → b.ledger.tracks n = true → b.ledger.tracks c = true → c ≠ n →
    b.ledger.ownerOf c = some n ∨ E c

namespace Recording

variable {E G : PartId → Prop} {s : Slot} {b : Bench}

theorem mono (h : Recording E s b) (hE : ∀ n c, s = .part n → c ≠ n → E c → G c) : Recording G s b where
  sane := h.sane
  plain := h.plain
  ordered := h.ordered
  owned := h.owned
  claimed n c hs hc hn htc hne := (h.claimed n c hs hc hn htc hne).imp_right (hE n c hs hne)

/-- Once no ownership of `s` is left to record, the bench is kept. --/
theorem finish (h : Recording E s b) (hE : ∀ c, ¬ E c) : Kept b ∧ b.Plain s := by
  refine ⟨⟨h.sane, ?_, h.ordered⟩, h.plain⟩
  cases s with
  | data _ => exact h.owned
  | part n =>
    exact h.owned.finish fun c hc hn htc hne => (h.claimed n c rfl hc hn htc hne).resolve_right (hE c)

end Recording

/-- The recorded component `o` may adopt `s`: `s` is `o` itself, or `s` is a component built before
`o` that nothing but `o` is to own, and one of its stages when `o` is a provider. --/
def Adoptable (s o : Slot) (b : Bench) : Prop :=
  s = o ∨ ∀ c n, s = .part c → o = .part n → c < n ∧ (∀ o', b.Claims o' c → o' = n) ∧
    ∀ p, b.part? n = some p → p.role.isProvider = true → c ∈ b.stagesOf p.role

/-- What a factory answered from the configuration `c`: a value `c` holds, or the component it just
built, the last one, which lies above the components `W` and is no provider. --/
def Answer (c : Config) (W : PartId → Prop) (s : Slot) (b : Bench) : Prop :=
  Held c s ∨ ∃ n p, s = .part n ∧ b.parts.length = n + 1 ∧ (∀ w, W w → w < n) ∧ b.part? n = some p ∧
    p.role.isProvider = false

/-- Resolving a component from a kept bench whose configuration holds plain values. What it answers
is a value of the configuration, or else the component it just built, which is to own only the
exporter the configuration holds. A component that nothing was to own is then to be owned by that
new component at most, and only if the configuration holds it. --/
theorem resolve_step (files : FileSystem) (reg : Registry Factory) (cap : Capability) (name : String) (c : Config)
    (W : PartId → Prop) :
    Step (fun b => Kept b ∧ (∀ k t, (k, t) ∈ c → b.Plain t) ∧ b.FreeAmong W) (resolve files reg cap name c)
      (fun s b => Pending (fun id => c.get? "exporter" = some (.part id)) s b ∧ Answer c W s b ∧
        ∀ w, W w → w < b.parts.length ∧ ∀ o, b.Claims o w → s = .part o ∧ Held c (.part w)) := by
  intro b ⟨hk, hc, hW⟩
  rcases resolve_makes files reg cap name c b with ⟨hb, hheld⟩ | ⟨p, hp, hrun⟩
  · rw [hb]
    refine ⟨List.prefix_refl _, ?_⟩
    split
    · next s h =>
      have hh := hheld s h
      refine ⟨.settled hk ?_, .inl hh, fun w hw => ⟨(hW w hw).1, fun o ho => absurd ho ((hW w hw).2 o)⟩⟩
      cases s with
      | data _ => trivial
      | part id =>
        obtain ⟨k, hk⟩ := hh
        exact hc k _ hk
    · exact hk.sane
  · rw [hrun]
    have hlen := Bench.length_add b p
    have hpart : (b.add p).1.part? b.parts.length = some p := Bench.part?_add b p
    -- the new component is to own only the exporter its configuration holds
    have hclaims : ∀ id, (b.add p).1.Claims b.parts.length id → c.get? "exporter" = some (.part id) := by
      intro id hclaim
      rcases Bench.claims_last hclaim with hex | hst
      · exact hp.exporter _ hex
      · rw [Bench.stagesOf_of_not_provider hp.notProvider] at hst
        cases hst
    refine ⟨List.prefix_append _ _, .fresh hlen hk.sane.isOpen hk.sane.built ?_ ?_ ?_ ?_ hclaims,
      .inr ⟨_, p, rfl, hlen, fun w hw => (hW w hw).1, hpart, hp.notProvider⟩, fun w hw => ⟨?_, fun o ho => ?_⟩⟩
    · exact hk.sane.settled.of_extends rfl (List.prefix_append _ _) (Nat.le_refl _)
    · simp [Bench.Plain, Bench.part?_add_eq, hp.plain]
    · exact hk.owned.add hk.sane hk.ordered p
    · refine hk.ordered.add fun id hid => ?_
      obtain ⟨k, hmem⟩ := hp.holds id hid
      exact Bench.lt_of_plain (hc k _ hmem)
    · rw [hlen]
      exact Nat.lt_succ_of_lt (hW w hw).1
    · rcases Bench.claims_add hk.ordered ho with h | ⟨rfl, h⟩
      · exact absurd h ((hW w hw).2 o)
      · exact ⟨rfl, Config.mem_of_get? (hclaims w ⟨p, hpart, h⟩)⟩

/-- A property of the bench that does not read the ledger. --/
def IgnoresLedger (F : Bench → Prop) : Prop := ∀ b l, F b → F { b with ledger := l }

/-- Whether a value has a shutdown, as `isCloseable` answers. --/
def closeableOn (b : Bench) (s : Slot) : Bool := ((b.roleOf s).map Role.closeable).getD false

/-- A component just built without a shutdown needs no record: the bench is kept as it is. --/
theorem Pending.kept_of_not_closeable {E : PartId → Prop} {s : Slot} {b : Bench} (hp : Pending E s b)
    (hc : closeableOn b s = false) : Kept b ∧ b.Plain s := by
  cases hp with
  | settled hk hpl => exact ⟨hk, hpl⟩
  | @fresh n _ hlen ho hb hset hpl hown hord =>
    refine ⟨⟨⟨ho, hb, ?_⟩, hown, hord⟩, hpl⟩
    rw [hlen]
    exact hset.succ_of_keeps_false ((Bench.keeps_eq_of_plain hpl).trans hc)

theorem isCloseable_step {P : Bench → Prop} {s : Slot} :
    Step P (isCloseable s) (fun d b => P b ∧ closeableOn b s = d) :=
  Step.of_readOnly (fun _ => rfl) (fun _ _ _ h => nomatch h) fun b d hb h => by
    rw [run_isCloseable] at h
    cases h
    exact ⟨hb, rfl⟩

/-- Acquiring a component with a shutdown records it: one just built is recorded last, one already
settled is recorded already. Whatever does not read the ledger is kept. --/
theorem acquire_pending {E : PartId → Prop} {s : Slot} (name : String) {F : Bench → Prop}
    (hF : IgnoresLedger F) :
    Step (fun b => (Pending E s b ∧ closeableOn b s = true) ∧ F b) (acquire s name)
      (fun _ b => Recording E s b ∧ F b) := by
  intro b ⟨⟨hp, hc⟩, hf⟩
  cases hp with
  | settled hk hpl =>
    cases s with
    | data _ => cases hc
    | part id =>
      have ht := hk.sane.tracks hpl hc
      have hrun : (acquire (.part id) name).run.run b = (.ok (), b) := by
        rw [run_acquire_part]
        simp [closeableOn] at hc
        simp [Ledger.acquire, hc, hk.sane.isOpen, ht]
      rw [hrun]
      refine ⟨List.prefix_refl _, ⟨hk.sane, hpl, hk.ordered, hk.owned.weaken _, fun n c hs hclaim hn htc hne => ?_⟩, hf⟩
      cases hs
      exact .inl (hk.owned.owns id c (Option.some_ne_none _) hclaim hn htc hne)
  | @fresh n _ hlen ho hb hset hpl hown hord hclaims =>
    have hfree : b.ledger.tracks n = false := by
      rw [Ledger.tracks_eq_false_iff]
      intro hmem
      exact Nat.lt_irrefl n (hset.lt hmem)
    have hacq : b.ledger.acquire n (some n) (b.className (.part n)) (.str name) =
        .ok { b.ledger with entries := b.ledger.entries ++ [⟨n, n, .str name, none⟩] } := by
      simp [Ledger.acquire, ho, hfree]
    have hrun : (acquire (.part n) name).run.run b =
        (.ok (), { b with ledger := { b.ledger with entries := b.ledger.entries ++ [⟨n, n, .str name, none⟩] } }) := by
      rw [run_acquire_part]
      simp only [closeableOn] at hc
      rw [hc, if_pos rfl, hacq]
    rw [hrun]
    refine ⟨List.prefix_refl _, ⟨⟨ho, .acquire hb hacq, ?_⟩, hpl, hord, hown.record hlen hset hord n (.str name),
      fun n' c hs hclaim _ _ _ => ?_⟩, hF _ _ hf⟩
    · -- the new record is the place just built, which the ledger must hold
      have hk : b.keeps n = true := (Bench.keeps_eq_of_plain hpl).trans hc
      show (b.ledger.entries ++ [(⟨n, n, .str name, none⟩ : Entry PartId PartId)]).map (·.handle) =
        (List.range b.parts.length).filter b.keeps
      rw [List.map_append, hset, hlen, List.range_succ, List.filter_append]
      simp [hk]
    · cases hs
      exact .inr (hclaims c hclaim)

/-- Adopting what the recorded component may adopt keeps recording; an ownership left to record is
recorded when it is the one adopted. Whatever does not read the ledger is kept. --/
theorem adopt_step {s o : Slot} {E G : PartId → Prop} (hE : ∀ c, E c → G c ∨ s = .part c) {F : Bench → Prop}
    (hF : IgnoresLedger F) :
    Step (fun b => (Recording E o b ∧ Adoptable s o b) ∧ F b) (adopt s o) (fun _ b => Recording G o b ∧ F b) := by
  intro b ⟨⟨hr, ha⟩, hf⟩
  -- an ownership left to record stays so unless it is the one adopted
  have hkeep : ∀ n c, o = .part n → c ≠ n → E c → s ≠ .part c → G c :=
    fun _ c _ _ hc hs => (hE c hc).resolve_right hs
  cases s with
  | data v =>
    rw [run_adopt_data]
    exact ⟨List.prefix_refl _, hr.mono fun n c ho hne hc => hkeep n c ho hne hc (fun h => by cases h), hf⟩
  | part c₀ =>
    cases o with
    | data v => exact ⟨List.prefix_refl _, hr.mono (fun _ _ ho => by cases ho), hf⟩
    | part n =>
      rw [run_adopt_part]
      refine ⟨List.prefix_refl _, ?_, hF _ _ hf⟩
      by_cases hc₀ : c₀ = n
      · -- a component adopting itself records nothing
        subst hc₀
        rw [Ledger.adopt_self]
        exact hr.mono fun n c ho hne hc => hkeep n c ho hne hc fun h => by
          cases ho
          cases h
          exact hne rfl
      · obtain ⟨hlt, honly, hprov⟩ := ha.resolve_left (fun h => hc₀ (Slot.part.inj h)) c₀ n rfl rfl
        refine ⟨hr.sane.adopt hlt, hr.plain, hr.ordered, hr.owned.adopt honly hprov, fun n' c hs hclaim hn htc hne => ?_⟩
        cases hs
        simp only [Ledger.tracks_adopt] at hn htc
        by_cases hc : c = c₀
        · subst hc
          have hrec : b.ledger.records c n = true := by simp [Ledger.records, hn, htc, hne]
          exact .inl (Ledger.ownerOf_adopt_self hrec)
        · show (b.ledger.adopt c₀ n).ownerOf c = some n ∨ G c
          rw [Ledger.ownerOf_adopt_of_ne _ hc]
          exact (hr.claimed n c rfl hclaim hn htc hne).imp_right fun h =>
            (hE c h).resolve_right fun h' => hc (Slot.part.inj h').symm

/-- Recording a component that is to own nothing settles the bench for what follows. --/
theorem acquire_then {s : Slot} {name : String} {K : Unit → Build β} {R : β → Bench → Prop}
    (hK : Step (fun b => Kept b ∧ b.Plain s) (K ()) R) :
    Step (Pending (fun _ => False) s) (isCloseable s >>= fun d => if d = true then acquire s name >>= K else K ()) R := by
  refine Step.bind isCloseable_step fun d => ?_
  split
  · next hd =>
    subst hd
    refine Step.bind ((acquire_pending (F := fun _ => True) name fun _ _ h => h).mono (fun _ h => ⟨h, trivial⟩)
      fun _ _ h => h.1.finish fun _ h => h) fun _ => hK
  · next hd =>
    exact hK.mono (fun b ⟨hp, hc⟩ => hp.kept_of_not_closeable (Bool.eq_false_iff.mpr (hc ▸ hd))) fun _ _ h => h

/-- A component nested in a stage's configuration under a key of another extension point than the
stage's own. --/
def NestedOther (cap : Capability) (nesting : List (String × Capability)) (config : Config) (c : PartId) : Prop :=
  ∃ k X, (k, X) ∈ nesting ∧ X ≠ cap ∧ config.get? k = some (.part c)

/-- A key that does not hold `c` under another extension point does not nest it. --/
theorem NestedOther.of_cons {cap : Capability} {key : String} {X : Capability} {rest : List (String × Capability)}
    {config : Config} {c : PartId} (h : NestedOther cap ((key, X) :: rest) config c)
    (hkey : X ≠ cap → config.get? key ≠ some (.part c)) : NestedOther cap rest config c := by
  obtain ⟨k, Y, hmem, hY, hget⟩ := h
  rcases List.mem_cons.mp hmem with h | h
  · obtain ⟨rfl, rfl⟩ := Prod.mk.inj h
    exact absurd hget (hkey hY)
  · exact ⟨k, Y, h, hY, hget⟩

/-- The stage `inst` may adopt each component nested under a key of another extension point. --/
def AdoptsNested (cap : Capability) (nesting : List (String × Capability)) (config : Config) (inst : Slot)
    (b : Bench) : Prop :=
  ∀ k X s, (k, X) ∈ nesting → X ≠ cap → config.get? k = some s → Adoptable s inst b

/-- Recording a stage settles the bench, when the stage is to own only nested components of other
extension points, and each of those is one it may adopt. Whatever does not read the ledger is kept. --/
theorem recordStage_step {cap : Capability} {name : String} {nesting : List (String × Capability)}
    {config : Config} {inst : Slot} {F : Bench → Prop} (hF : IgnoresLedger F) :
    Step (fun b => (Pending (NestedOther cap nesting config) inst b ∧ AdoptsNested cap nesting config inst b) ∧ F b)
      (recordStage cap name nesting config inst) (fun _ b => (Kept b ∧ b.Plain inst) ∧ F b) := by
  simp only [recordStage]
  refine Step.bind isCloseable_step fun d => ?_
  split
  · next hd =>
    subst hd
    refine Step.bind ((acquire_pending (E := NestedOther cap nesting config) _
      (F := fun b => AdoptsNested cap nesting config inst b ∧ F b) fun b l h => ⟨h.1, hF b l h.2⟩).mono
        (fun _ ⟨⟨⟨hp, ha⟩, hf⟩, hc⟩ => ⟨⟨hp, hc⟩, ha, hf⟩) fun _ _ h => h) fun _ => ?_
    -- key by key, the ownerships left to record are those under the keys still to come
    refine Step.bind ((Step.forIn_rest (J := fun rest _ b => (Recording (NestedOther cap rest config) inst b ∧
        ∀ y ∈ rest, y ∈ nesting) ∧ AdoptsNested cap nesting config inst b ∧ F b) (fun x rest _ => ?_) nesting _).mono
      (fun _ h => ⟨⟨h.1, fun _ hy => hy⟩, h.2⟩) fun _ _ h => h) fun _ =>
        Step.pure fun _ h => ⟨h.1.1.finish (fun _ ⟨_, _, hmem, _⟩ => by cases hmem), h.2.2⟩
    obtain ⟨key, X⟩ := x
    split
    · next hne =>
      have hX : X ≠ cap := by simpa using hne
      split
      · next s hs =>
        refine Step.bind ((adopt_step (E := NestedOther cap ((key, X) :: rest) config) (G := NestedOther cap rest config)
          (fun c h => ?_) (F := fun b => (∀ y ∈ rest, y ∈ nesting) ∧ AdoptsNested cap nesting config inst b ∧ F b)
          fun b l h => ⟨h.1, h.2.1, hF b l h.2.2⟩).mono
          (fun _ ⟨⟨hr, hsub⟩, ha, hf⟩ => ⟨⟨hr, ha key X s (hsub _ List.mem_cons_self) hX hs⟩,
            fun y hy => hsub y (List.mem_cons_of_mem _ hy), ha, hf⟩)
          fun _ _ ⟨hr, hsub, ha, hf⟩ => ⟨⟨hr, hsub⟩, ha, hf⟩) fun _ => Step.pure fun _ h => h
        -- the key adopted is the one that held `c`, or another key nests it
        by_cases hc : config.get? key = some (.part c)
        · rw [hs] at hc
          exact .inr (Option.some.inj hc)
        · exact .inl (h.of_cons fun _ => hc)
      · next hs =>
        exact Step.pure fun _ ⟨⟨hr, hsub⟩, ha, hf⟩ => ⟨⟨hr.mono fun _ _ _ _ h => h.of_cons fun _ => by simp [hs],
          fun y hy => hsub y (List.mem_cons_of_mem _ hy)⟩, ha, hf⟩
    · next heq =>
      have hX : X = cap := by simpa using heq
      exact Step.pure fun _ ⟨⟨hr, hsub⟩, ha, hf⟩ => ⟨⟨hr.mono fun _ _ _ _ h => h.of_cons fun hX' => absurd hX hX',
        fun y hy => hsub y (List.mem_cons_of_mem _ hy)⟩, ha, hf⟩
  · next hd =>
    exact Step.pure fun b ⟨⟨⟨hp, _⟩, hf⟩, hc⟩ => ⟨hp.kept_of_not_closeable (Bool.eq_false_iff.mpr (hc ▸ hd)), hf⟩

/-! ### Stages -/

/-- The nestings stages are resolved with: every nested key belongs to the stage's own extension
point, or there is one nested key, of another. --/
def Fits (cap : Capability) (nesting : List (String × Capability)) : Prop :=
  (∀ p ∈ nesting, p.2 = cap) ∨ ∃ k X, X ≠ cap ∧ nesting = [(k, X)]

/-- The key `exporter`, when nested, belongs to another extension point than the stage's own. --/
def ExporterFits (cap : Capability) (nesting : List (String × Capability)) : Prop :=
  ∀ X, ("exporter", X) ∈ nesting → X ≠ cap

/-- Every component of a configuration sits under each nested key of another extension point, and
is what that key holds. --/
def Shares (cap : Capability) (nesting : List (String × Capability)) (config : Config) : Prop :=
  ∀ k X, (k, X) ∈ nesting → X ≠ cap → ∀ k' id, (k', .part id) ∈ config →
    isTextKey k k' = true ∧ config.get? k = some (.part id)

/-- `s` is plain data, or a component outside `U` that nothing is to own. --/
def FreshFor (U : PartId → Prop) (b : Bench) : Slot → Prop
  | .data _ => True
  | .part id => ¬ U id ∧ b.Free id

theorem parseComponent_readOnly (v : Json) (place : String) : ReadOnly (parseComponent v place) := by
  unfold parseComponent
  split
  · exact ReadOnly.pure _
  · exact ReadOnly.throw _

/-- The components of a stage's configuration as its nested components leave them: each sits under
a key of the nesting, none is among `U`, and they are shared as `Shares` says. --/
structure Nested (U : PartId → Prop) (cap : Capability) (nesting : List (String × Capability)) (config : Config) :
    Prop where
  keyed : ∀ k' id, (k', .part id) ∈ config → ∃ k X, (k, X) ∈ nesting ∧ isTextKey k k' = true
  outside : ∀ k id, (k, .part id) ∈ config → ¬ U id
  shares : Shares cap nesting config

/-- What a stage's nested components leave behind: a kept bench on which nothing is to own the
components `U` or those of the configuration, and a configuration of plain values. --/
def NestedOk (U : PartId → Prop) (cap : Capability) (nesting : List (String × Capability)) (config : Config)
    (b : Bench) : Prop :=
  (Kept b ∧ b.FreeAmong (fun u => U u ∨ Held config (.part u)) ∧ ∀ k t, (k, t) ∈ config → b.Plain t) ∧
    Nested U cap nesting config

theorem nestedOk_ofMembers {U : PartId → Prop} (cap : Capability) (nesting : List (String × Capability)) (ms : Members)
    {b : Bench} (h : Kept b ∧ b.FreeAmong U) : NestedOk U cap nesting (Config.ofMembers ms) b := by
  -- a written configuration holds no component
  have hdata : ∀ k id, (k, Slot.part id) ∉ Config.ofMembers ms := fun k id hm => by
    obtain ⟨v, hv⟩ := Config.data_of_mem_ofMembers hm
    cases hv
  refine ⟨⟨h.1, fun u hu => ?_, fun k t ht => ?_⟩, ⟨fun k id hm => absurd hm (hdata k id),
    fun k id hm => absurd hm (hdata k id), fun _ _ _ _ k id hm => absurd hm (hdata k id)⟩⟩
  · rcases hu with hu | ⟨k, hm⟩
    · exact h.2 u hu
    · exact absurd hm (hdata k u)
  · obtain ⟨v, rfl⟩ := Config.data_of_mem_ofMembers ht
    trivial

/-- Storing a nested component under its key keeps the configuration shared. --/
theorem Shares.insert {cap : Capability} {nesting : List (String × Capability)} {config : Config}
    (hfit : Fits cap nesting) (hsh : Shares cap nesting config) {key : String} {X : Capability}
    (hx : (key, X) ∈ nesting) (s : Slot) : Shares cap nesting (config.insert key s) := by
  intro k Y hk hY k' id hmem
  rcases hfit with hall | ⟨k₀, X₀, -, rfl⟩
  · exact absurd (hall _ hk) hY
  · -- one nested key: the one stored under
    simp only [List.mem_singleton, Prod.mk.injEq] at hx hk
    obtain ⟨rfl, -⟩ := hx
    obtain ⟨rfl, hX⟩ := hk
    rcases Config.mem_insert hmem with ⟨rfl, rfl⟩ | ⟨hold, hkey⟩
    · exact ⟨isTextKey_self _, Config.get?_insert _ _ _⟩
    · have := (hsh k X₀ List.mem_cons_self (hX ▸ hY) k' id hold).1
      rw [hkey] at this
      cases this

/-- Storing a nested component outside `U` under its key keeps the configuration nested. --/
theorem Nested.insert {U : PartId → Prop} {cap : Capability} {nesting : List (String × Capability)} {config : Config}
    (hn : Nested U cap nesting config) (hfit : Fits cap nesting) {key : String} {X : Capability}
    (hx : (key, X) ∈ nesting) {s : Slot} (hs : ∀ id, s = .part id → ¬ U id) :
    Nested U cap nesting (config.insert key s) where
  keyed k' id hm := by
    rcases Config.mem_insert hm with ⟨rfl, -⟩ | ⟨hold, -⟩
    · exact ⟨key, X, hx, isTextKey_self key⟩
    · exact hn.keyed k' id hold
  outside k id hm := by
    rcases Config.mem_insert hm with ⟨-, hsid⟩ | ⟨hold, -⟩
    · exact hs id hsid.symm
    · exact hn.outside k id hold
  shares := hn.shares.insert hfit hx s

theorem fits_nested {cap X : Capability} {nesting : List (String × Capability)} (hfit : Fits cap nesting) :
    Fits X (if (X == cap) = true then nesting else []) := by
  split
  · next h =>
    rw [beq_iff_eq] at h
    subst h
    exact hfit
  · exact .inl fun _ h => by cases h

theorem exporterFits_nested {cap X : Capability} {nesting : List (String × Capability)}
    (hex : ExporterFits cap nesting) : ExporterFits X (if (X == cap) = true then nesting else []) := by
  split
  · next h =>
    rw [beq_iff_eq] at h
    subst h
    exact hex
  · exact fun _ h => by cases h

/-- The exporter a stage's configuration holds is nested under a key of another extension point. --/
theorem nestedOther_of_exporter {U : PartId → Prop} {cap : Capability} {nesting : List (String × Capability)}
    {config : Config} (hn : Nested U cap nesting config) (hex : ExporterFits cap nesting) {id : PartId}
    (h : config.get? "exporter" = some (.part id)) : NestedOther cap nesting config id := by
  obtain ⟨k, X, hk, hkey⟩ := hn.keyed _ id (Config.mem_of_get?_str h)
  obtain rfl := eq_of_isTextKey hkey
  exact ⟨"exporter", X, hk, hex X hk, h⟩

/-- The nested components a stage is to adopt are the stage itself, or lie below it and are to be
owned by nothing but it. --/
theorem adoptable_nested {cap : Capability} {nesting : List (String × Capability)} {config : Config} {inst : Slot}
    {W : PartId → Prop} {b : Bench} (hsh : Shares cap nesting config)
    (hW : ∀ k id, (k, .part id) ∈ config → W id) (hans : Answer config W inst b)
    (honly : ∀ w, W w → ∀ o, b.Claims o w → inst = .part o ∧ Held config (.part w)) :
    AdoptsNested cap nesting config inst b := by
  intro k X s hk hX hs
  rcases hans with hheld | ⟨n, p, rfl, -, hbelow, hpart, hnp⟩
  · cases inst with
    | data _ => exact .inr fun _ _ _ h => by cases h
    | part o =>
      -- a stage that is a component of its own configuration is what the nested key holds
      obtain ⟨k', hk'⟩ := hheld
      have := (hsh k X hk hX k' o hk').2
      rw [hs] at this
      exact .inl (Option.some.inj this)
  · refine .inr fun c n' hc hn => ?_
    cases hn
    subst hc
    have hWc : W c := by
      obtain ⟨key, hkey⟩ := Config.mem_of_get? hs
      exact hW key c hkey
    refine ⟨hbelow c hWc, fun o' ho' => Slot.part.inj (honly c hWc o' ho').1 |>.symm, fun p' hp' hprov => ?_⟩
    rw [hpart] at hp'
    cases hp'
    rw [hnp] at hprov
    cases hprov

/-- Storing the component a nested key resolved to keeps the configuration nested: it is free
and outside `U` and what the configuration held before. --/
theorem nestedOk_insert {U : PartId → Prop} {cap : Capability} {nesting : List (String × Capability)}
    {acc : Config} {key : String} {X : Capability} {s : Slot} {b : Bench} (hfit : Fits cap nesting)
    (hx : (key, X) ∈ nesting) (hn : Nested U cap nesting acc) (hk : Kept b) (hps : b.Plain s)
    (hfree : b.FreeAmong (fun u => U u ∨ Held acc (.part u)))
    (hs : FreshFor (fun u => U u ∨ Held acc (.part u)) b s) (hplain : ∀ k t, (k, t) ∈ acc → b.Plain t) :
    NestedOk U cap nesting (acc.insert key s) b := by
  refine ⟨⟨hk, fun u hu => ?_, fun k t ht => ?_⟩, hn.insert hfit hx fun id hid => ?_⟩
  · rcases hu with hu | ⟨k, hm⟩
    · exact hfree u (.inl hu)
    · rcases Config.mem_insert hm with ⟨-, hsu⟩ | ⟨hold, -⟩
      · subst hsu
        exact ⟨Bench.lt_of_plain hps, hs.2⟩
      · exact hfree u (.inr ⟨k, hold⟩)
  · rcases Config.mem_insert ht with ⟨-, rfl⟩ | ⟨hold, -⟩
    · exact hps
    · exact hplain k t hold
  · subst hid
    exact fun hu => hs.1 (.inl hu)

/-- Once its answer is recorded, a stage leaves free what was free outside its configuration, and
its answer is outside `U` and free: a component just built comes last, and a value of the
configuration could be owned only by itself. --/
theorem answer_fresh {U : PartId → Prop} {cap : Capability} {nesting : List (String × Capability)}
    {config : Config} {inst : Slot} {b : Bench} (hn : Nested U cap nesting config) (hk : Kept b)
    (hans : Answer config (fun u => U u ∨ Held config (.part u)) inst b)
    (honly : ∀ w, (U w ∨ Held config (.part w)) → w < b.parts.length ∧
      ∀ o, b.Claims o w → inst = .part o ∧ Held config (.part w)) :
    b.FreeAmong U ∧ FreshFor U b inst := by
  refine ⟨fun u hu => ⟨(honly u (.inl hu)).1, fun o ho => ?_⟩, ?_⟩
  · -- what the stage is to own its configuration holds, and `U` is outside it
    obtain ⟨k, hm⟩ := ((honly u (.inl hu)).2 o ho).2
    exact hn.outside k u hm hu
  · cases inst with
    | data _ => trivial
    | part id =>
      rcases hans with ⟨k, hm⟩ | ⟨n, p, hid, hlen, hbelow, -, -⟩
      · refine ⟨hn.outside k id hm, fun o ho => ?_⟩
        have hself := Slot.part.inj ((honly id (.inr ⟨k, hm⟩)).2 o ho).1
        subst hself
        exact Nat.lt_irrefl _ (ho.lt hk.ordered)
      · cases hid
        exact ⟨fun hu => Nat.lt_irrefl id (hbelow id (.inl hu)), Bench.free_of_last hk.ordered hlen⟩

/-- Resolving a stage keeps a kept bench kept, whether it succeeds or fails, and keeps free what
nothing was to own; it answers plain data or a component that is not a limiting processor, not
among those, and free itself. The recursion is on the fuel, which every nested component is
resolved with one less of; a nested component is resolved with the components of the configuration
so far kept free. --/
theorem resolveStage_kept (ctx : Context) :
    ∀ fuel cap c nesting, Fits cap nesting → ExporterFits cap nesting → ∀ U : PartId → Prop,
      Step (fun b => Kept b ∧ b.FreeAmong U) (resolveStage ctx fuel cap c nesting)
        (fun s b => (Kept b ∧ b.Plain s) ∧ b.FreeAmong U ∧ FreshFor U b s)
  | 0, _, _, _, _, _, _ => Step.throw fun _ h => h.1.sane
  | fuel + 1, cap, c, nesting, hfit, hex, U => by
    simp only [resolveStage]
    refine Step.bind ((Step.forIn nesting (J := NestedOk U cap nesting) (fun x hx acc => ?_) _).mono
      (fun b hb => nestedOk_ofMembers cap nesting c.config hb) fun _ _ h => h) fun config => ?_
    · -- a nested key that holds a mapping is resolved first, and its component stored under it
      split
      · refine Step.bind (Step.of_readOnly (parseComponent_readOnly _ _) (fun b _ h _ => h.1.1.sane)
          fun _ _ h _ => h) fun nested => ?_
        refine Step.assume fun hn => ?_
        refine Step.bind (((resolveStage_kept ctx fuel x.2 nested _ (fits_nested hfit) (exporterFits_nested hex)
          (fun u => U u ∨ Held acc (.part u))).frame (F := fun b => ∀ k t, (k, t) ∈ acc → b.Plain t)
          fun b b' h hp k t ht => (h k t ht).of_extends hp).mono (fun b h => ⟨⟨h.1, h.2.1⟩, h.2.2⟩)
          fun _ _ h => h) fun s => ?_
        exact Step.pure fun b ⟨⟨⟨hk, hps⟩, hfree, hs⟩, hplain⟩ => nestedOk_insert hfit hx hn hk hps hfree hs hplain
      · exact Step.pure fun _ h => h
    · -- the stage is built from its configuration, and adopts what it nests of other extension points
      refine Step.assume fun hn => ?_
      refine Step.bind ((resolve_step ctx.files ctx.registry cap c.name config
        (fun u => U u ∨ Held config (.part u))).mono (fun b h => ⟨h.1, h.2.2, h.2.1⟩) fun _ _ h => h) fun inst => ?_
      have hW : ∀ k id, (k, .part id) ∈ config → U id ∨ Held config (.part id) := fun k _ hm => .inr ⟨k, hm⟩
      refine Step.bind ((recordStage_step (F := fun b => Answer config (fun u => U u ∨ Held config (.part u)) inst b ∧
          ∀ w, (U w ∨ Held config (.part w)) → w < b.parts.length ∧
            ∀ o, b.Claims o w → inst = .part o ∧ Held config (.part w)) fun _ _ h => h).mono
        (fun _ ⟨hp, hans, honly⟩ => ⟨⟨hp.mono fun _ h => nestedOther_of_exporter hn hex h,
          adoptable_nested hn.shares hW hans fun w hw => (honly w hw).2⟩, hans, honly⟩) fun _ _ h => h) fun _ => ?_
      exact Step.pure fun b ⟨⟨hk, hpl⟩, hans, honly⟩ => ⟨⟨hk, hpl⟩, answer_fresh hn hk hans honly⟩

end Telemetry.Assembly
