import Telemetry.Assembly.Stage
import Telemetry.Proofs.Factories
import Telemetry.Proofs.LedgerLaws

/-!
What a bench in the middle of an assembly must look like.

The ledger must hold every component with a shutdown (`Bench.keeps`), except a limiting processor,
which stands in front of a processor the ledger holds. A bench is sane (`Sane`) when its ledger is
open, every owner it records was recorded after what it owns (so the ownership rule of the release
applies), and it holds exactly the components it must, in the order they were built
(`Bench.Settled`).

A processor or reader is to own the exporter it names, and a provider its stages (`Bench.Claims`).
A bench is kept (`Kept`) when it is sane, its ledger records every such ownership between recorded
components and no other ownership of a provider (`Bench.OwnedBut`), and every component was built
after the components it holds (`Bench.Ordered`).
-/

/-! ### Owners recorded after what they own -/

namespace Telemetry.Ledger

variable {ρ : Type}

theorem mem_of_tracks {l : Ledger Nat ρ} {h : Nat} (ht : l.tracks h = true) : h ∈ l.entries.map (·.handle) := by
  obtain ⟨e, he, heq⟩ := List.any_eq_true.mp ht
  exact List.mem_map.mpr ⟨e, he, beq_iff_eq.mp heq⟩

/-- Where handles are recorded in increasing order, a recorded owner above the child is recorded
after it. --/
theorem ownerAfter_of_lt {l : Ledger Nat ρ} (hsorted : (l.entries.map (·.handle)).Pairwise (· < ·))
    {c o : Nat} (hlt : c < o) (ho : o ∈ l.entries.map (·.handle)) : OwnerAfter l c o := by
  intro xs e ys hsplit he
  rw [hsplit, List.map_append, List.map_cons] at hsorted ho
  rcases List.mem_append.mp ho with hx | hy
  · have := (List.pairwise_append.mp hsorted).2.2 o hx e.handle List.mem_cons_self
    omega
  · rcases List.mem_cons.mp hy with h | h
    · omega
    · exact h

theorem adopt_self (l : Ledger Nat ρ) (c : Nat) : l.adopt c c = l := by
  simp [adopt]

/-- The owner recorded for a resource, if any. --/
def ownerOf (l : Ledger Nat ρ) (c : Nat) : Option Nat :=
  (l.entries.find? (·.handle == c)).bind (·.owner)

theorem tracks_adopt (l : Ledger Nat ρ) (c o x : Nat) : (l.adopt c o).tracks x = l.tracks x := by
  have h := congrArg (fun hs : List Nat => hs.any (· == x)) (adopt_handles l c o)
  simpa only [tracks, List.any_map, Function.comp_def] using h

theorem tracks_append (l : Ledger Nat ρ) (e : Entry Nat ρ) (x : Nat) :
    ({ l with entries := l.entries ++ [e] } : Ledger Nat ρ).tracks x = (l.tracks x || e.handle == x) := by
  simp [tracks, List.any_append]

/-- Adopting changes no handle, so a search by handle meets the same records. --/
theorem find_handle_adopt (c o x : Nat) :
    ((fun e : Entry Nat ρ => e.handle == x) ∘ fun e => if e.handle == c then { e with owner := some o } else e) =
      fun e => e.handle == x := by
  funext e
  simp only [Function.comp]
  split <;> rfl

theorem ownerOf_adopt_of_ne (l : Ledger Nat ρ) {c o c' : Nat} (h : c' ≠ c) :
    (l.adopt c o).ownerOf c' = l.ownerOf c' := by
  unfold adopt
  split
  · rfl
  · split
    · unfold ownerOf
      rw [List.find?_map, find_handle_adopt]
      cases hfind : l.entries.find? (·.handle == c') with
      | none => rfl
      | some e =>
        have he : e.handle = c' := by simpa using List.find?_some hfind
        simp [he, h]
    · rfl

theorem ownerOf_adopt_self {l : Ledger Nat ρ} {c o : Nat} (h : l.records c o = true) :
    (l.adopt c o).ownerOf c = some o := by
  simp only [records, Bool.and_eq_true, Bool.not_eq_true'] at h
  obtain ⟨⟨hne, hc⟩, ho⟩ := h
  unfold adopt
  rw [if_neg (by simpa using hne), if_pos (by simp [hc, ho])]
  unfold ownerOf
  rw [List.find?_map, find_handle_adopt]
  obtain ⟨e, he⟩ := Option.isSome_iff_exists.mp (List.find?_isSome.mpr (List.any_eq_true.mp hc))
  have hh : e.handle = c := by simpa using List.find?_some he
  simp [he, hh]

theorem adopt_of_records_false {l : Ledger Nat ρ} {c o : Nat} (h : l.records c o = false) : l.adopt c o = l := by
  unfold adopt
  split
  · rfl
  · rw [if_neg]
    simp only [records, Bool.and_eq_false_iff, Bool.not_eq_false'] at h
    rcases h with (h | h) | h
    · rename_i hne
      exact absurd h hne
    · simp [h]
    · simp [h]

theorem ownerOf_append {l : Ledger Nat ρ} {e : Entry Nat ρ} (hfresh : l.tracks e.handle = false) (c : Nat) :
    ({ l with entries := l.entries ++ [e] } : Ledger Nat ρ).ownerOf c = if c = e.handle then e.owner else l.ownerOf c := by
  unfold ownerOf
  simp only [List.find?_append]
  split
  · next h =>
    subst h
    have hnone : l.entries.find? (·.handle == e.handle) = none := by
      rw [List.find?_eq_none]
      intro x hx hxe
      have : l.tracks e.handle = true := List.any_eq_true.mpr ⟨x, hx, hxe⟩
      rw [hfresh] at this
      cases this
    simp [hnone]
  · next h =>
    cases hfind : l.entries.find? (·.handle == c) with
    | some x => rfl
    | none => simp [Ne.symm h]

/-- A resource with a recorded owner is itself recorded. --/
theorem tracks_of_ownerOf_child {l : Ledger Nat ρ} {c o : Nat} (h : l.ownerOf c = some o) : l.tracks c = true := by
  unfold ownerOf at h
  obtain ⟨e, he, -⟩ := Option.bind_eq_some_iff.mp h
  have hc := List.find?_some he
  exact List.any_eq_true.mpr ⟨e, List.mem_of_find?_eq_some he, hc⟩

/-- Every recorded owner is itself recorded. --/
theorem tracks_of_ownerOf {l : Ledger Nat ρ} (ho : OwnersLater l.entries) {c o : Nat} (h : l.ownerOf c = some o) :
    l.tracks o = true := by
  unfold ownerOf at h
  obtain ⟨e, he, heo⟩ := Option.bind_eq_some_iff.mp h
  obtain ⟨xs, ys, hsplit⟩ := List.append_of_mem (List.mem_of_find?_eq_some he)
  obtain ⟨x, hx, rfl⟩ := List.mem_map.mp (ho xs e ys o hsplit heo)
  exact List.any_eq_true.mpr ⟨x, by rw [hsplit]; simp [hx], by simp⟩

end Telemetry.Ledger

namespace Telemetry.Pipeline

namespace Bench

/-- Whether the ledger must hold the component at a place: it has a shutdown and does not only
stand in front of another processor. --/
def keeps (b : Bench) (id : PartId) : Bool :=
  match b.part? id with
  | some p => p.role.closeable && !p.role.wraps
  | none => false

/-- The ledger holds exactly the components below place `n` that it must hold, in the order they
were built. --/
def Settled (b : Bench) (n : Nat) : Prop :=
  b.ledger.entries.map (·.handle) = (List.range n).filter b.keeps

/-- A value that is plain data or a component on the bench that is not a limiting processor. --/
def Plain (b : Bench) : Slot → Prop
  | .data _ => True
  | .part id => (b.part? id).map (·.role.wraps) = some false

theorem part?_of_extends {b b' : Bench} (hp : b.parts <+: b'.parts) {id : PartId} {p : Instance}
    (h : b.part? id = some p) : b'.part? id = some p := by
  unfold part? at h ⊢
  obtain ⟨rest, hrest⟩ := hp
  rw [← hrest, List.getElem?_append_left (List.getElem?_eq_some_iff.mp h).1]
  exact h

theorem lt_of_part? {b : Bench} {id : PartId} {p : Instance} (h : b.part? id = some p) : id < b.parts.length :=
  (List.getElem?_eq_some_iff.mp h).1

theorem keeps_of_extends {b b' : Bench} (hp : b.parts <+: b'.parts) {id : PartId} (hid : id < b.parts.length) :
    b'.keeps id = b.keeps id := by
  obtain ⟨p, hpart⟩ : ∃ p, b.part? id = some p := ⟨_, List.getElem?_eq_getElem hid⟩
  simp only [keeps, hpart, part?_of_extends hp hpart]

theorem Plain.of_extends {b b' : Bench} (hp : b.parts <+: b'.parts) {s : Slot} (h : b.Plain s) : b'.Plain s := by
  cases s with
  | data _ => trivial
  | part id =>
    obtain ⟨p, hpart, hw⟩ := Option.map_eq_some_iff.mp h
    simp only [Plain, part?_of_extends hp hpart, Option.map_some, hw]

theorem lt_of_plain {b : Bench} {id : PartId} (h : b.Plain (.part id)) : id < b.parts.length := by
  obtain ⟨p, hpart, -⟩ := Option.map_eq_some_iff.mp h
  exact lt_of_part? hpart

/-- A component that is not a limiting processor must be held exactly when it has a shutdown. --/
theorem keeps_eq_of_plain {b : Bench} {id : PartId} (h : b.Plain (.part id)) :
    b.keeps id = ((b.roleOf (.part id)).map Role.closeable).getD false := by
  obtain ⟨p, hpart, hw⟩ := Option.map_eq_some_iff.mp h
  simp [keeps, roleOf, hpart, hw]

theorem length_add (b : Bench) (p : Instance) : (b.add p).1.parts.length = b.parts.length + 1 := by
  simp [add]

theorem part?_add_eq (b : Bench) (p : Instance) (id : PartId) :
    (b.add p).1.part? id = if id = b.parts.length then some p else b.part? id := by
  simp only [add, part?]
  split
  · next h => subst h; simp
  · next h =>
    rcases Nat.lt_or_ge id b.parts.length with hlt | hge
    · rw [List.getElem?_append_left hlt]
    · have hlen : (b.parts ++ [p]).length ≤ id := by
        rw [List.length_append, List.length_singleton]
        exact Nat.succ_le_of_lt (Nat.lt_of_le_of_ne hge (Ne.symm h))
      rw [List.getElem?_eq_none hge, List.getElem?_eq_none hlen]

end Bench

/-! ### Settled ledgers -/

namespace Bench

variable {b b' : Bench} {n : Nat}

theorem Settled.of_extends (hs : b.Settled n) (hl : b'.ledger = b.ledger) (hp : b.parts <+: b'.parts)
    (hn : n ≤ b.parts.length) : b'.Settled n := by
  unfold Settled at hs ⊢
  rw [hl, hs]
  apply List.filter_congr
  intro id hid
  rw [keeps_of_extends hp (Nat.lt_of_lt_of_le (List.mem_range.mp hid) hn)]

theorem Settled.succ_of_keeps_false (hs : b.Settled n) (hk : b.keeps n = false) : b.Settled (n + 1) := by
  unfold Settled at hs ⊢
  rw [List.range_succ, List.filter_append, hs]
  simp [hk]

/-- Every handle of a settled ledger is a place below `n`. --/
theorem Settled.lt (hs : b.Settled n) {id : PartId} (h : id ∈ b.ledger.entries.map (·.handle)) : id < n := by
  unfold Settled at hs
  rw [hs] at h
  exact List.mem_range.mp (List.mem_filter.mp h).1

/-- A settled ledger holds every component below `n` that it must hold. --/
theorem Settled.sorted (hs : b.Settled n) : (b.ledger.entries.map (·.handle)).Pairwise (· < ·) := by
  unfold Settled at hs
  rw [hs]
  exact List.pairwise_lt_range.filter _

theorem Settled.tracks (hs : b.Settled n) {id : PartId} (hid : id < n) (hk : b.keeps id = true) :
    b.ledger.tracks id = true := by
  unfold Settled at hs
  unfold Ledger.tracks
  rw [List.any_eq_true]
  have : id ∈ b.ledger.entries.map (·.handle) := by
    rw [hs]
    exact List.mem_filter.mpr ⟨List.mem_range.mpr hid, hk⟩
  obtain ⟨e, he, rfl⟩ := List.mem_map.mp this
  exact ⟨e, he, beq_self_eq_true _⟩

end Bench

/-! ### Configurations -/

theorem Config.data_of_mem_ofMembers {ms : Members} {k : Json} {t : Slot} (h : (k, t) ∈ Config.ofMembers ms) :
    ∃ v, t = .data v := by
  obtain ⟨m, -, he⟩ := List.mem_map.mp h
  simp only [Prod.mk.injEq] at he
  exact ⟨m.2, he.2.symm⟩

/-- A value of a configuration after storing `s` under the text key `k` is `s` under that key, or
a value it held before under another key. --/
theorem Config.mem_insert {c : Config} {k : String} {s : Slot} {k' : Json} {t : Slot}
    (h : (k', t) ∈ c.insert k s) : k' = .str k ∧ t = s ∨ (k', t) ∈ c ∧ isTextKey k k' = false := by
  unfold Config.insert at h
  split at h
  · obtain ⟨m, hm, he⟩ := List.mem_map.mp h
    split at he
    · simp only [Prod.mk.injEq] at he
      exact .inl ⟨he.1.symm, he.2.symm⟩
    · next hk =>
      subst he
      exact .inr ⟨hm, Bool.eq_false_iff.mpr hk⟩
  · next hany =>
    rcases List.mem_append.mp h with hm | hm
    · refine .inr ⟨hm, Bool.eq_false_iff.mpr fun hk => hany ?_⟩
      exact List.any_eq_true.mpr ⟨_, hm, hk⟩
    · simp only [List.mem_singleton, Prod.mk.injEq] at hm
      exact .inl hm

theorem isTextKey_self (k : String) : isTextKey k (.str k) = true := by
  simp [isTextKey]

theorem eq_of_isTextKey {k k' : String} (h : isTextKey k (.str k') = true) : k' = k := by
  simpa [isTextKey] using h

/-- A value read from a configuration sits there under the text key it was read by. --/
theorem Config.mem_of_get?_str {c : Config} {k : String} {t : Slot} (h : c.get? k = some t) : (.str k, t) ∈ c := by
  unfold Config.get? at h
  obtain ⟨m, hm, rfl⟩ := Option.map_eq_some_iff.mp h
  have hk := List.find?_some hm
  obtain ⟨key, v⟩ := m
  cases key with
  | str k' =>
    obtain rfl := eq_of_isTextKey hk
    exact List.mem_of_find?_eq_some hm
  | _ => cases hk

theorem Config.get?_insert (c : Config) (k : String) (s : Slot) : (c.insert k s).get? k = some s := by
  unfold Config.insert Config.get?
  split
  · next hany =>
    rw [List.find?_map]
    obtain ⟨m, hm, hk⟩ := List.any_eq_true.mp hany
    have hfind : (c.find? ((fun m => isTextKey k m.1) ∘ fun m => if isTextKey k m.1 then (Json.str k, s) else m)) =
        c.find? (fun m => isTextKey k m.1) := by
      congr 1
      funext m
      simp only [Function.comp]
      split
      · next h => rw [h, isTextKey_self]
      · rfl
    rw [hfind]
    obtain ⟨m', hm'⟩ := Option.isSome_iff_exists.mp
      (List.find?_isSome (p := fun m => isTextKey k m.1) |>.mpr ⟨m, hm, hk⟩)
    have hk' := List.find?_some hm'
    simp [hm', hk']
  · next hany =>
    have hnone : c.find? (fun m => isTextKey k m.1) = none := by
      rw [List.find?_eq_none]
      intro m hm hk
      exact hany (List.any_eq_true.mpr ⟨m, hm, hk⟩)
    simp [List.find?_append, hnone, isTextKey_self]

/-- A bench in the middle of an assembly: its ledger is open, every owner it records was recorded
after what it owns, and it holds exactly the components it must, in the order they were built. --/
structure Sane (b : Bench) : Prop where
  isOpen : b.ledger.closed = false
  built : Ledger.Built Ledger.OwnerAfter b.ledger
  settled : b.Settled b.parts.length

namespace Sane

variable {b : Bench}

theorem adopt (hs : Sane b) {c o : PartId} (hlt : c < o) : Sane { b with ledger := b.ledger.adopt c o } where
  isOpen := by
    show (b.ledger.adopt c o).closed = false
    rw [Ledger.adopt_closed]
    exact hs.isOpen
  built := .adopt hs.built fun hrec => by
    have ho : b.ledger.tracks o = true := by
      unfold Ledger.records at hrec
      simp only [Bool.and_eq_true] at hrec
      exact hrec.2
    exact Ledger.ownerAfter_of_lt hs.settled.sorted hlt (Ledger.mem_of_tracks ho)
  settled := by
    show (b.ledger.adopt c o).entries.map (·.handle) = _
    rw [Ledger.adopt_handles]
    exact hs.settled

/-- On a sane bench the ledger holds exactly the components it must. --/
theorem tracks_eq_keeps (hs : Sane b) (id : PartId) : b.ledger.tracks id = b.keeps id := by
  rw [Bool.eq_iff_iff, Ledger.tracks, List.any_eq_true]
  constructor
  · rintro ⟨e, he, hid⟩
    have hmem : id ∈ (List.range b.parts.length).filter b.keeps := by
      rw [← hs.settled]
      exact List.mem_map.mpr ⟨e, he, beq_iff_eq.mp hid⟩
    exact (List.mem_filter.mp hmem).2
  · intro hk
    have hlt : id < b.parts.length := by
      unfold Bench.keeps at hk
      split at hk
      · next p hp => exact Bench.lt_of_part? hp
      · cases hk
    have hmem : id ∈ b.ledger.entries.map (·.handle) := by
      rw [hs.settled]
      exact List.mem_filter.mpr ⟨List.mem_range.mpr hlt, hk⟩
    obtain ⟨e, he, rfl⟩ := List.mem_map.mp hmem
    exact ⟨e, he, beq_self_eq_true _⟩

/-- A sane ledger holds every component with a shutdown that is not a limiting processor. --/
theorem tracks (hs : Sane b) {id : PartId} (hp : b.Plain (.part id))
    (hc : ((b.roleOf (.part id)).map Role.closeable).getD false = true) : b.ledger.tracks id = true := by
  exact hs.settled.tracks (Bench.lt_of_plain hp) ((Bench.keeps_eq_of_plain hp).trans hc)

end Sane

/-! ### Who is to own what -/

namespace Bench

variable {b b' : Bench}

/-- The component a processor given to a provider stands for: the delegate of a limiting
processor, the processor itself otherwise. --/
def unwrap (b : Bench) (id : PartId) : PartId :=
  match (b.part? id).map (·.role) with
  | some (Role.limiting d _ _) => d
  | _ => id

/-- The stages a provider shuts down: its processors or readers, a limiting processor standing
for its delegate. --/
def stagesOf (b : Bench) : Role → List PartId
  | .tracerProvider ps | .meterProvider ps _ => ps
  | .loggerProvider ps => ps.map b.unwrap
  | _ => []

/-- The component at `o` is to own the one at `c`: `c` is the exporter `o` names, or one of the
stages of the provider `o`. --/
def Claims (b : Bench) (o c : PartId) : Prop :=
  ∃ p, b.part? o = some p ∧ (p.role.exporter? = some (.part c) ∨ c ∈ b.stagesOf p.role)

/-- No component is to own the one at `c`. --/
def Free (b : Bench) (c : PartId) : Prop := ∀ o, ¬ b.Claims o c

/-- Every component holds only components built before it. --/
def Ordered (b : Bench) : Prop := ∀ o p, b.part? o = some p → ∀ c ∈ p.role.holds, c < o

theorem stagesOf_of_not_provider {r : Role} (h : r.isProvider = false) : b.stagesOf r = [] := by
  cases r <;> simp_all [stagesOf, Role.isProvider]

theorem unwrap_of_extends (hp : b.parts <+: b'.parts) {id : PartId} (hid : id < b.parts.length) :
    b'.unwrap id = b.unwrap id := by
  obtain ⟨p, hpart⟩ : ∃ p, b.part? id = some p := ⟨_, List.getElem?_eq_getElem hid⟩
  simp only [unwrap, hpart, part?_of_extends hp hpart]

theorem stagesOf_of_extends (hp : b.parts <+: b'.parts) {r : Role} (hr : ∀ id ∈ r.holds, id < b.parts.length) :
    b'.stagesOf r = b.stagesOf r := by
  cases r with
  | loggerProvider ps =>
    simp only [stagesOf]
    exact List.map_congr_left fun id hid => unwrap_of_extends hp (hr id hid)
  | _ => rfl

/-- A provider's stages were built before it: a limiting processor holds a delegate built before
it in turn. --/
theorem lt_of_mem_stagesOf (ho : b.Ordered) {o : PartId} {p : Instance} (hpart : b.part? o = some p)
    {c : PartId} (hc : c ∈ b.stagesOf p.role) : c < o := by
  have hheld := ho o p hpart
  cases hr : p.role with
  | tracerProvider ps | meterProvider ps _ =>
    rw [hr] at hc hheld
    exact hheld c hc
  | loggerProvider ps =>
    rw [hr] at hc hheld
    obtain ⟨w, hw, rfl⟩ := List.mem_map.mp hc
    have hwo := hheld w hw
    unfold unwrap
    split
    · next d _ _ hd =>
      obtain ⟨q, hq, hqr⟩ := Option.map_eq_some_iff.mp hd
      exact Nat.lt_trans (ho w q hq d (by rw [hqr]; exact List.mem_singleton_self d)) hwo
    · exact hwo
  | _ =>
    rw [hr] at hc
    cases hc

theorem Claims.lt (ho : b.Ordered) {o c : PartId} (h : b.Claims o c) : c < o := by
  obtain ⟨p, hpart, hex | hst⟩ := h
  · exact ho o p hpart c (Role.mem_holds_of_exporter hex)
  · exact lt_of_mem_stagesOf ho hpart hst

/-- What a component built earlier is to own does not change as the bench grows. --/
theorem claims_of_extends (hp : b.parts <+: b'.parts) (ho : b.Ordered) {o c : PartId} (hlt : o < b.parts.length) :
    b'.Claims o c ↔ b.Claims o c := by
  obtain ⟨p, hpart⟩ : ∃ p, b.part? o = some p := ⟨_, List.getElem?_eq_getElem hlt⟩
  have hs : b'.stagesOf p.role = b.stagesOf p.role :=
    stagesOf_of_extends hp fun id hid => Nat.lt_trans (ho o p hpart id hid) hlt
  simp only [Claims, part?_of_extends hp hpart, hpart, Option.some.injEq, exists_eq_left', hs]

/-- The component just put on the bench is to own the exporter it names, or its stages. --/
theorem claims_last {p : Instance} {c : PartId} (h : (b.add p).1.Claims b.parts.length c) :
    p.role.exporter? = some (.part c) ∨ c ∈ (b.add p).1.stagesOf p.role := by
  obtain ⟨q, hq, hq'⟩ := h
  rw [part?_add_eq, if_pos rfl] at hq
  cases hq
  exact hq'

/-- What a component is to own once `p` is put on the bench: what it was to own before, or, for `p`
itself, what `p` names. --/
theorem claims_add (ho : b.Ordered) {p : Instance} {o c : PartId} (h : (b.add p).1.Claims o c) :
    b.Claims o c ∨ o = b.parts.length ∧ (p.role.exporter? = some (.part c) ∨ c ∈ (b.add p).1.stagesOf p.role) := by
  rcases Nat.lt_or_ge o b.parts.length with hlt | hge
  · exact .inl ((claims_of_extends (List.prefix_append _ _) ho hlt).mp h)
  · have ⟨_, hq, _⟩ := h
    have hlen := lt_of_part? hq
    rw [length_add] at hlen
    obtain rfl : o = b.parts.length := Nat.le_antisymm (Nat.le_of_lt_succ hlen) hge
    exact .inr ⟨rfl, claims_last h⟩

theorem Ordered.add (ho : b.Ordered) {p : Instance} (hp : ∀ c ∈ p.role.holds, c < b.parts.length) :
    (b.add p).1.Ordered := by
  intro o q hq c hc
  rw [part?_add_eq] at hq
  split at hq
  · next h =>
    cases hq
    subst h
    exact hp c hc
  · exact ho o q hq c hc

/-- A component stays free when the one put on the bench is no provider and does not name it as its
exporter. --/
theorem Free.add (ho : b.Ordered) {c : PartId} (hc : b.Free c) {p : Instance} (hp : p.role.isProvider = false)
    (hex : p.role.exporter? ≠ some (.part c)) : (b.add p).1.Free c := by
  intro o hclaim
  rcases claims_add ho hclaim with h | ⟨-, h | h⟩
  · exact hc o h
  · exact hex h
  · rw [stagesOf_of_not_provider hp] at h
    cases h

/-- The component built last is free: what is to own it comes after it. --/
theorem free_of_last (ho : b.Ordered) {n : PartId} (hlen : b.parts.length = n + 1) : b.Free n := by
  intro o hclaim
  have hlt := Claims.lt ho hclaim
  obtain ⟨p, hp, -⟩ := hclaim
  have ho' := lt_of_part? hp
  rw [hlen] at ho'
  exact Nat.lt_irrefl n (Nat.lt_of_lt_of_le hlt (Nat.le_of_lt_succ ho'))

/-- The components `W` are on the bench and free. --/
def FreeAmong (W : PartId → Prop) (b : Bench) : Prop := ∀ w, W w → w < b.parts.length ∧ b.Free w

/-- The ledger records every ownership the components claim, except perhaps those the component
at `x` claims, and a provider owns only its stages. --/
structure OwnedBut (x : Option PartId) (b : Bench) : Prop where
  owns : ∀ o c, some o ≠ x → b.Claims o c → b.ledger.tracks o = true → b.ledger.tracks c = true → c ≠ o →
    b.ledger.ownerOf c = some o
  providers : ∀ c o p, b.ledger.ownerOf c = some o → b.part? o = some p → p.role.isProvider = true →
    c ∈ b.stagesOf p.role

end Bench

/-- A bench in the middle of an assembly that records every ownership its components claim, each
component holding only components built before it. --/
structure Kept (b : Bench) : Prop where
  sane : Sane b
  owned : b.OwnedBut none
  ordered : b.Ordered

namespace Bench.OwnedBut

variable {b : Bench} {x : Option PartId}

/-- Putting a component on a sane bench keeps the recorded ownerships: the new one is not recorded. --/
theorem add (hs : Sane b) (ho : b.Ordered) (h : b.OwnedBut x) (p : Instance) : (b.add p).1.OwnedBut x where
  owns o c hx hclaim hto htc hne := by
    have hlt : o < b.parts.length := hs.settled.lt (Ledger.mem_of_tracks hto)
    exact h.owns o c hx ((claims_of_extends (List.prefix_append _ _) ho hlt).mp hclaim) hto htc hne
  providers c o q hown hq hprov := by
    have hlt : o < b.parts.length :=
      hs.settled.lt (Ledger.mem_of_tracks (Ledger.tracks_of_ownerOf hs.built.ownersLater hown))
    rw [part?_add_eq, if_neg (Nat.ne_of_lt hlt)] at hq
    rw [stagesOf_of_extends (List.prefix_append _ _) fun id hid => Nat.lt_trans (ho o q hq id hid) hlt]
    exact h.providers c o q hown hq hprov

/-- Recording the component just built leaves only its own ownerships to record. --/
theorem record {n : PartId} (hlen : b.parts.length = n + 1) (hset : b.Settled n) (ho : b.Ordered)
    (h : b.OwnedBut none) (a : PartId) (name : Json) :
    OwnedBut (some n) { b with ledger := { b.ledger with entries := b.ledger.entries ++ [⟨n, a, name, none⟩] } } := by
  have hfresh : b.ledger.tracks n = false := by
    rw [Ledger.tracks_eq_false_iff]
    intro hmem
    exact Nat.lt_irrefl n (hset.lt hmem)
  constructor
  · intro o c hx hclaim hto htc hne
    have hon : o ≠ n := fun h => hx (congrArg some h)
    -- what `o` claims was built before it, so below the new record
    have hco : c < o := Claims.lt ho hclaim
    have hon' : o < n := by
      obtain ⟨p, hpart, -⟩ := hclaim
      have hlt := lt_of_part? hpart
      rw [hlen] at hlt
      exact Nat.lt_of_le_of_ne (Nat.le_of_lt_succ hlt) hon
    have hcn : c ≠ n := Nat.ne_of_lt (Nat.lt_trans hco hon')
    simp only [Ledger.tracks_append, Bool.or_eq_true, beq_iff_eq] at hto htc
    rw [Ledger.ownerOf_append hfresh, if_neg hcn]
    exact h.owns o c (by simp) hclaim (hto.resolve_right (Ne.symm hon)) (htc.resolve_right (Ne.symm hcn)) hne
  · intro c o p hown hpart hprov
    rw [Ledger.ownerOf_append hfresh] at hown
    split at hown
    · cases hown
    · exact h.providers c o p hown hpart hprov

/-- Recording that `o` owns `c` keeps the recorded ownerships when `o` is the only component to own
`c`, and, when `o` is a provider, `c` is one of its stages. --/
theorem adopt {o c : PartId} (h : b.OwnedBut (some o)) (honly : ∀ o', b.Claims o' c → o' = o)
    (hprov : ∀ p, b.part? o = some p → p.role.isProvider = true → c ∈ b.stagesOf p.role) :
    OwnedBut (some o) { b with ledger := b.ledger.adopt c o } := by
  constructor
  · intro o' c' hx hclaim hto htc hne
    simp only [Ledger.tracks_adopt] at hto htc
    have hc : c' ≠ c := by
      rintro rfl
      exact hx (congrArg some (honly o' hclaim))
    rw [Ledger.ownerOf_adopt_of_ne _ hc]
    exact h.owns o' c' hx hclaim hto htc hne
  · intro c' o' p hown hpart hp
    by_cases hc : c' = c
    · subst hc
      cases hrec : b.ledger.records c' o with
      | true =>
        rw [Ledger.ownerOf_adopt_self hrec] at hown
        cases hown
        exact hprov p hpart hp
      | false =>
        rw [Ledger.adopt_of_records_false hrec] at hown
        exact h.providers c' o' p hown hpart hp
    · rw [Ledger.ownerOf_adopt_of_ne _ hc] at hown
      exact h.providers c' o' p hown hpart hp

/-- Once every ownership `n` claims is recorded, all are. --/
theorem finish {n : PartId} (h : b.OwnedBut (some n))
    (hn : ∀ c, b.Claims n c → b.ledger.tracks n = true → b.ledger.tracks c = true → c ≠ n →
      b.ledger.ownerOf c = some n) : b.OwnedBut none where
  owns o c _ hclaim hto htc hne := by
    by_cases hon : o = n
    · subst hon
      exact hn c hclaim hto htc hne
    · exact h.owns o c (by simpa using hon) hclaim hto htc hne
  providers := h.providers

theorem weaken (h : b.OwnedBut none) (x : Option PartId) : b.OwnedBut x where
  owns o c _ := h.owns o c (by simp)
  providers := h.providers

end Bench.OwnedBut

namespace Kept

theorem start : Kept Bench.start where
  sane := ⟨rfl, .empty, rfl⟩
  owned :=
    { owns := fun _ _ _ _ hto => by cases hto
      providers := fun _ _ _ hown => by cases hown }
  ordered := fun _ _ hp => by cases hp

end Kept

end Telemetry.Pipeline
