/-!
Searching a sorted run for the place of a key, with a comparison that may fail. A comparison
`less a b` answers whether `a` is strictly below `b`, or fails; since a search stops at the first
failure, the order in which it compares is part of what it does.

A gallop looks for the place of a key near a hint: it compares with the keys at offsets 1, 3, 7,
15, … from the hint until it passes the place, and then halves the last gap. `gallopLeft` finds the
place before every key equal to the key, `gallopRight` the place after them. A binary insertion
halves the whole sorted prefix, and puts a key after every key it is not below.
-/

namespace Telemetry.Sorting

/-- A comparison that may fail: whether the first value is strictly below the second. --/
abbrev Less (α ε : Type) := α → α → Except ε Bool

variable {α ε : Type}

/-- Widen a search by doubling: from offsets `last < ofs`, while `ofs` is below `bound` and `go`
holds at it, move on to `ofs` and `2 ofs + 1`. The answer is the last pair, its second offset at
most `bound`. --/
def widen (go : Nat → Except ε Bool) (bound last ofs : Nat) : Except ε (Nat × Nat) :=
  if ofs < bound then do
    if ← go ofs then widen go bound ofs (2 * ofs + 1) else pure (last, ofs)
  else pure (last, bound)
termination_by bound - ofs

/-- Halve the gap from `lo` to `hi` until it closes: a middle place that `left` holds of lies left
of the answer, any other one at or right of it. --/
def narrow (left : Nat → Except ε Bool) (lo hi : Nat) : Except ε Nat :=
  if lo < hi then
    let mid := lo + (hi - lo) / 2
    do if ← left mid then narrow left (mid + 1) hi else narrow left lo mid
  else pure hi
termination_by hi - lo

/-- The place of `key` among the `n` sorted keys that `get` reads, searched from `hint`: after
every key strictly below it, before every other one. --/
def gallopLeft (less : Less α ε) (key : α) (get : Nat → α) (n hint : Nat) : Except ε Nat := do
  if ← less (get hint) key then
    let (last, ofs) ← widen (fun o => less (get (hint + o)) key) (n - hint) 0 1
    narrow (fun m => less (get m) key) (last + hint + 1) (ofs + hint)
  else
    let (last, ofs) ← widen (fun o => do return !(← less (get (hint - o)) key)) (hint + 1) 0 1
    narrow (fun m => less (get m) key) (hint + 1 - ofs) (hint - last)

/-- The place of `key` among the `n` sorted keys that `get` reads, searched from `hint`: after
every key it is not below, before every other one. --/
def gallopRight (less : Less α ε) (key : α) (get : Nat → α) (n hint : Nat) : Except ε Nat := do
  if ← less key (get hint) then
    let (last, ofs) ← widen (fun o => less key (get (hint - o))) (hint + 1) 0 1
    narrow (fun m => do return !(← less key (get m))) (hint + 1 - ofs) (hint - last)
  else
    let (last, ofs) ← widen (fun o => do return !(← less key (get (hint + o)))) (n - hint) 0 1
    narrow (fun m => do return !(← less key (get m))) (last + hint + 1) (ofs + hint)

/-- The place of `pivot` in the sorted keys `sorted` by halving all of them: after every key it
is not below. --/
def insertionPlace [Inhabited α] (less : Less α ε) (sorted : Array α) (pivot : α) : Except ε Nat :=
  narrow (fun m => do return !(← less pivot (sorted.getD m default))) 0 sorted.size

theorem narrow_done (left : Nat → Except ε Bool) (lo hi : Nat) (h : hi ≤ lo) :
    narrow left lo hi = .ok hi := by
  rw [narrow]
  simp only [show ¬ lo < hi by omega, if_false]
  rfl

theorem widen_cap (go : Nat → Except ε Bool) (bound last ofs : Nat) (r : Nat × Nat)
    (hr : widen go bound last ofs = .ok r) : r.2 ≤ bound := by
  rw [widen] at hr
  by_cases hlt : ofs < bound
  · simp only [hlt, if_true, bind, Except.bind] at hr
    cases hg : go ofs with
    | error e => simp [hg] at hr
    | ok b =>
      cases b with
      | true =>
        simp only [hg, if_true] at hr
        exact widen_cap go bound ofs (2 * ofs + 1) r hr
      | false =>
        simp only [hg] at hr
        cases hr
        exact Nat.le_of_lt hlt
  · simp only [hlt, if_false, pure, Except.pure] at hr
    cases hr
    exact Nat.le_refl _
termination_by bound - ofs

end Telemetry.Sorting
