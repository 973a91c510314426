import Telemetry.Pipeline.Bench

/-!
The loops of the assembly as the steps they run.

Every loop of the assembly yields on each item, so it is a monadic fold (the library's
`List.forIn_yield_eq_foldlM`). Its steps read the running value only to store their answer in it,
so the fold is the steps run in order, their answers stored afterwards (`foldlM_store`): one step
for each item (`forIn_store`), or for each item the loop picks out (`forIn_pick`). A loop whose body
only checks is the same check, made without a bench (`forIn_ofExcept`).
-/

namespace Telemetry.Assembly

open Pipeline

section Fold

variable {m : Type → Type} [Monad m] [LawfulMonad m] {α ρ σ β : Type}

/-- A fold whose step runs `g` on the item and stores its answer is the steps run in order, their
answers stored afterwards. --/
theorem foldlM_store (g : α → m σ) (store : β → σ → β) :
    ∀ (l : List α) (init : β),
      l.foldlM (fun r a => store r <$> g a) init = (fun ss => ss.foldl store init) <$> l.mapM g
  | [], init => by simp
  | a :: l, init => by
    simp only [List.foldlM_cons, List.mapM_cons, foldlM_store g store l, bind_map_left, map_bind]
    simp

/-- The steps' answers, each paired with its item. --/
theorem mapM_pair (g : α → m σ) :
    ∀ l : List α, l.mapM (fun a => (a, ·) <$> g a) = (l.zip ·) <$> l.mapM g
  | [] => by simp
  | a :: l => by
    simp only [List.mapM_cons, mapM_pair g l, bind_map_left, map_bind]
    simp

/-- A loop that runs a step for each item and stores its answer is the steps run in order, their
answers stored afterwards. --/
theorem forIn_store (l : List α) (g : α → m σ) (store : β → σ → β) (init : β)
    (body : α → β → m (ForInStep β)) (hbody : ∀ a r, body a r = (fun s => .yield (store r s)) <$> g a) :
    forIn l init body = (fun ss => ss.foldl store init) <$> l.mapM g := by
  have hbody' : body = fun a r => (fun s => .yield (store r s)) <$> g a := funext fun a => funext (hbody a)
  rw [hbody', List.forIn_yield_eq_foldlM]
  exact foldlM_store g store l init

/-- A loop that runs a step for each item it picks out and stores the step's answer is the steps
run in order, their answers stored afterwards. --/
theorem forIn_pick (l : List α) (pick : α → Option ρ) (g : ρ → m σ) (store : β → ρ → σ → β) (init : β)
    (body : α → β → m (ForInStep β))
    (hbody : ∀ a r, body a r = match pick a with
      | some x => (fun s => .yield (store r x s)) <$> g x
      | none => pure (.yield r)) :
    forIn l init body =
      (fun ss => ((l.filterMap pick).zip ss).foldl (fun r p => store r p.1 p.2) init) <$>
        (l.filterMap pick).mapM g := by
  -- an item left out is a step that answers the running value as it was
  have hbody' : body = fun a r => (fun r' => .yield r') <$> match pick a with
      | some x => (fun p => store r p.1 p.2) <$> (fun s => (x, s)) <$> g x
      | none => pure r := by
    funext a r
    rw [hbody]
    cases pick a <;> simp
  rw [hbody', List.forIn_yield_eq_foldlM]
  simp only [id_map']
  refine Eq.trans (b := (l.filterMap pick).foldlM
    (fun r x => (fun p => store r p.1 p.2) <$> (fun s => (x, s)) <$> g x) init) ?_ ?_
  · rw [List.foldlM_filterMap]
    congr 1
  · rw [foldlM_store, mapM_pair, Functor.map_map]

end Fold

/-- A fold whose step only checks is the same check, made without a bench. --/
theorem foldlM_ofExcept {β γ : Type} (f : β → γ → Except Fault β) :
    ∀ (l : List γ) (init : β), l.foldlM (fun r a => Build.ofExcept (f r a)) init = Build.ofExcept (l.foldlM f init)
  | [], _ => rfl
  | a :: l, init => by
    rw [List.foldlM_cons, List.foldlM_cons]
    cases f init a with
    | ok x =>
      simp only [Build.ofExcept, pure_bind]
      exact foldlM_ofExcept f l x
    | error e => rfl

/-- A loop whose body only checks is the same check, made without a bench. --/
theorem forIn_ofExcept {β γ : Type} (l : List γ) (init : β) (f : β → γ → Except Fault β)
    (body : γ → β → Build (ForInStep β)) (hbody : ∀ a r, body a r = (fun x => .yield x) <$> Build.ofExcept (f r a)) :
    forIn l init body = Build.ofExcept (l.foldlM f init) := by
  have hbody' : body = fun a r => (fun x => .yield x) <$> Build.ofExcept (f r a) :=
    funext fun a => funext (hbody a)
  rw [hbody', List.forIn_yield_eq_foldlM]
  simp only [id_map']
  exact foldlM_ofExcept f l init

end Telemetry.Assembly
