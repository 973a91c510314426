import Telemetry.Http.Headers
import Telemetry.Text.Digit
import Telemetry.Binary64.Basic

/-!
Requests prepared by a session whose headers come partly from a supplier. A session starts every
request with its own client headers; the request's headers are laid over them, a null value
taking a header away, and every header that results is checked before anything else happens.
Only then is the supplier asked, once per request, and its answer laid over the checked headers
unchecked. A report of a request lists its headers under their lower-case names, sorted, the
client headers left out.
-/

namespace Telemetry.Http

/-- The headers a session starts every request with. A report never shows them, so their values
stand in for the client's own. --/
def clientHeaders : List (String × Json) :=
  [("User-Agent", .str "client"), ("Accept-Encoding", .str "gzip, deflate"), ("Accept", .str "*/*"),
   ("Connection", .str "keep-alive")]

/-- The names a report leaves out: the client headers, and the length of the body, which every
request states. --/
def clientHeaderNames : List String :=
  ["user-agent", "accept-encoding", "accept", "connection", "content-length"]

/-- Prepare one request with the request's headers `own` and the supplier's `answer`, and report
its headers. --/
def prepare (own : Members) (answer : Json) : Except Failure (List (String × Json)) := do
  let merged := ((HeaderSet.empty.setAll clientHeaders).setAll own).dropNull
  merged.items.forM fun p => HeaderSet.check p.1 p.2
  let supplied ← merged.update answer
  pure (supplied.report clientHeaderNames)

/-- Prepare `count` requests, the supplier giving `answers` in turn and null once they run out. --/
def prepareAll (own : Members) (answers : List Json) (count : Nat) :
    Except Failure (List (List (String × Json))) :=
  (List.range count).mapM fun k => prepare own (answers.getD k .null)

/-- The answers a supplier made from a value gives in turn: the items of a list, or the characters
of a text, each as a text of its own. --/
def answersOf : Json → List Json
  | .arr xs => xs
  | .str s => s.toList.map fun c => .str (String.singleton c)
  | _ => []

/-! ### How many requests -/

/-- A whole number written as text: blanks around it (the ASCII separators U+001C to U+001F
are not blanks here), an optional sign, and decimal digits of any script with single underscores
between them. --/
def wholeNumberText? (s : String) : Option Int :=
  let digits (cs : List Char) : Option Nat := Text.groupedValue? Text.decimalValue? cs
  match (Text.trimBy Text.isWholeNumberBlank s).toList with
  | '-' :: cs => (digits cs).map fun n => -(n : Int)
  | '+' :: cs => (digits cs).map fun n => (n : Int)
  | cs => (digits cs).map fun n => (n : Int)

/-- The whole number a value stands for: an integer, a boolean as `0` or `1`, a finite float
without its fraction, or a text of a whole number. --/
def wholeNumber : Json → Except Failure Int
  | .int i => .ok i
  | .bool b => .ok (if b then 1 else 0)
  | .float x =>
    match Binary64.truncate? x, Binary64.shape x with
    | some i, _ => .ok i
    | none, .nan => .error ⟨.valueError, "cannot convert float NaN to integer"⟩
    | none, _ => .error ⟨.overflowError, "cannot convert float infinity to integer"⟩
  | .str s =>
    match wholeNumberText? s with
    | some i => .ok i
    | none => .error ⟨.valueError, "invalid literal for int() with base 10: " ++ Json.textLiteral s⟩
  | other => .error ⟨.typeError,
      "int() argument must be a string, a bytes-like object or a real number, not '" ++ other.kindName ++ "'"⟩

theorem length_of_mapM_ok {α β ε : Type} (f : α → Except ε β) :
    ∀ (xs : List α) (ys : List β), xs.mapM f = .ok ys → ys.length = xs.length
  | [], ys, h => by
    simp only [List.mapM_nil] at h
    cases h
    rfl
  | x :: xs, ys, h => by
    simp only [List.mapM_cons] at h
    cases hx : f x with
    | error e => simp [hx] at h; cases h
    | ok y =>
      cases hxs : xs.mapM f with
      | error e => simp [hx, hxs] at h; cases h
      | ok zs =>
        simp [hx, hxs] at h
        cases h
        simp [length_of_mapM_ok f xs zs hxs]

theorem prepareAll_length (own : Members) (answers : List Json) (count : Nat)
    (rs : List (List (String × Json))) (h : prepareAll own answers count = .ok rs) :
    rs.length = count := by
  rw [length_of_mapM_ok _ _ _ h, List.length_range]

end Telemetry.Http
