/-!
Ordering texts by code point, the order in which messages list keys and in which resource
attributes and attribute-key sets are shown.
-/

namespace Telemetry.Text

/-- Texts in increasing code-point order; equal texts keep their relative order. --/
def sortTexts (xs : List String) : List String :=
  xs.mergeSort (fun a b => !(b < a))

/-- Pairs in increasing code-point order of their first components. --/
def sortByKey {α : Type} (xs : List (String × α)) : List (String × α) :=
  xs.mergeSort (fun a b => !(b.1 < a.1))

/-- The distinct texts of a list, in increasing order. --/
def sortedSet (xs : List String) : List String :=
  (sortTexts xs).eraseDups

theorem sortTexts_length (xs : List String) : (sortTexts xs).length = xs.length := by
  simp [sortTexts, List.length_mergeSort]

end Telemetry.Text
