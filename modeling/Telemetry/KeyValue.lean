import Telemetry.Fault
import Telemetry.Text.Blank
import Telemetry.Text.Percent

/-!
Lists of `key=value` pairs written in one text, as headers and resource attributes are given:
`key1=value1,key2=value2`. Entries are separated by commas and trimmed; empty entries are skipped.
Each entry is cut at its first `=`; the key and the value are trimmed, and the value is
percent-decoded. A later entry for a key replaces the value of an earlier one, which keeps its
place. An entry without `=`, or with an empty key, is an error that quotes the trimmed entry.
-/

namespace Telemetry

/-- Cut a text at its first `=`: the part before it and the part after it, if there is one. --/
def cutAtEquals (s : String) : String × Option String :=
  match s.toList.span (· != '=') with
  | (before, '=' :: after) => (String.ofList before, some (String.ofList after))
  | (before, _) => (String.ofList before, none)

/-- Store a pair: an existing key keeps its place and takes the new value. --/
def putPair (acc : List (String × String)) (k v : String) : List (String × String) :=
  if acc.any (·.1 == k) then acc.map (fun p => if p.1 == k then (k, v) else p) else acc ++ [(k, v)]

/-- Read the entries of a list, given the pairs read so far. --/
def readEntries (what : String) : List (String × String) → List String →
    Except Fault (List (String × String))
  | acc, [] => .ok acc
  | acc, e :: es =>
    let entry := Text.strip e
    if entry.isEmpty then readEntries what acc es
    else
      let (rawKey, rest) := cutAtEquals entry
      let key := Text.strip rawKey
      match rest with
      | some raw =>
        if key.isEmpty then
          .error (.failure ⟨.valueError, "Invalid " ++ what ++ " '" ++ entry ++ "', expected key=value"⟩)
        else readEntries what (putPair acc key (Text.percentDecode (Text.strip raw))) es
      | none => .error (.failure ⟨.valueError, "Invalid " ++ what ++ " '" ++ entry ++ "', expected key=value"⟩)

/-- Read a `key=value` list; an unset or empty text is the empty list. --/
def parseKeyValueList (value : Option String) (what : String) :
    Except Fault (List (String × String)) :=
  match value with
  | none => .ok []
  | some s => if s.isEmpty then .ok [] else readEntries what [] (s.splitOn ",")

theorem parseKeyValueList_none (what : String) : parseKeyValueList none what = .ok [] := rfl

end Telemetry
