import Telemetry.Net.Address
import Telemetry.Fault

/-!
The checks a URL passes when it is split into its parts. Before splitting, control characters
and spaces at its start are dropped, and so are tabs and line breaks anywhere. A scheme is the
text before the first colon when it starts with an ASCII letter and holds only letters, digits,
`+`, `-` and `.`; what follows `//` up to the first `/`, `?` or `#` is the network location.

A network location must either hold both square brackets or neither. When it holds them, its
host is found after its last `@`: a host in brackets, with nothing before the `[` and, after the
`]`, nothing or a `:` and what follows it; or else the text up to the first `:`. That host must be an IPv6 address, or
an address of a future version: `v`, hex digits, a dot and at least one more character. An IPv4
address is refused, and so is anything else.

Last, a network location must hold no character whose compatibility form holds `/`, `?`, `#`, `@`
or `:`, such as the full-width solidus `／`: a name written with one would name another host once
normalized.
-/

namespace Telemetry.Net

/-- The URL as splitting reads it: leading controls and spaces dropped, tabs and line breaks
removed. --/
def cleaned (s : String) : List Char :=
  (s.toList.dropWhile (fun c => c.toNat ≤ 0x20)).filter (fun c => c != '\t' && c != '\r' && c != '\n')

/-- Whether a character may stand in a scheme. --/
def isSchemeChar (c : Char) : Bool :=
  (c.isAlpha || c.isDigit || c == '+' || c == '-' || c == '.') && c.toNat < 128

/-- The URL after its scheme, when it has one. --/
def afterScheme (cs : List Char) : List Char :=
  let (scheme, rest) := cs.span (· != ':')
  match scheme, rest with
  | c :: _, ':' :: after =>
    if c.toNat < 128 && c.isAlpha && scheme.all isSchemeChar then after else cs
  | _, _ => cs

/-- The network location of a URL, when it has one. --/
def netloc? (s : String) : Option (List Char) :=
  match afterScheme (cleaned s) with
  | '/' :: '/' :: rest => some (rest.takeWhile fun c => c != '/' && c != '?' && c != '#')
  | _ => none

/-- Whether a bracketed host names an address of a future version: `v`, hex digits, a dot and
one or more characters. --/
def isFutureAddress : List Char → Bool
  | 'v' :: rest =>
    let (digits, more) := rest.span isHexDigit
    match more with
    | '.' :: tail => !digits.isEmpty && !tail.isEmpty
    | _ => false
  | _ => false

/-- Check a bracketed host. --/
def checkBracketed (host : List Char) : Except Failure Unit :=
  if host.head? == some 'v' then
    if isFutureAddress host then .ok () else .error ⟨.valueError, "IPvFuture address is invalid"⟩
  else
    match Address.read (String.ofList host) with
    | .v6 => .ok ()
    | .v4 => .error ⟨.valueError, "An IPv4 address cannot be in brackets"⟩
    | .none => .error ⟨.valueError,
        Json.textLiteral (String.ofList host) ++ " does not appear to be an IPv4 or IPv6 address"⟩

/-- The failure of a network location whose brackets are out of place. --/
def invalidBrackets : Failure := ⟨.valueError, "Invalid IPv6 URL"⟩

/-- The text after the last `@`, or all of it. --/
def afterLastAt (loc : List Char) : List Char := (loc.reverse.takeWhile (· != '@')).reverse

/-- The host of a network location that holds brackets: after the last `@`, a bracketed host,
which nothing may precede and only a `:` and what follows it may follow, or else the text before
the first `:`. --/
def bracketedHost (loc : List Char) : Except Failure (List Char) :=
  let hostPort := afterLastAt loc
  match hostPort.span (· != '[') with
  | (before, '[' :: bracketed) =>
    let (host, rest) := bracketed.span (· != ']')
    let tail := rest.drop 1
    if !before.isEmpty then .error invalidBrackets
    else if !tail.isEmpty && tail.head? != some ':' then .error invalidBrackets
    else .ok host
  | _ => .ok (hostPort.takeWhile (· != ':'))

/-- The characters whose compatibility form holds `/`, `?`, `#`, `@` or `:`, as closed ranges:
`⁇`–`⁉`, `℀`, `℁`, `℅`, `℆`, `⩴`, and small and full-width forms of the delimiters. --/
def delimiterLookalikes : List (Nat × Nat) :=
  [(0x2047, 0x2049), (0x2100, 0x2101), (0x2105, 0x2106), (0x2A74, 0x2A74), (0xFE13, 0xFE13),
   (0xFE16, 0xFE16), (0xFE55, 0xFE56), (0xFE5F, 0xFE5F), (0xFE6B, 0xFE6B), (0xFF03, 0xFF03),
   (0xFF0F, 0xFF0F), (0xFF1A, 0xFF1A), (0xFF1F, 0xFF20)]

/-- Whether a character's compatibility form holds a delimiter of a URL. --/
def isDelimiterLookalike (c : Char) : Bool :=
  delimiterLookalikes.any (fun r => r.1 ≤ c.toNat && c.toNat ≤ r.2)

/-- Check that a network location holds no character that normalizes to a delimiter. --/
def checkNormalized (loc : List Char) : Except Failure Unit :=
  if loc.any isDelimiterLookalike then
    .error ⟨.valueError, "netloc '" ++ String.ofList loc ++ "' contains invalid characters under NFKC normalization"⟩
  else .ok ()

/-- Check that a URL can be split. --/
def check (s : String) : Except Failure Unit :=
  match netloc? s with
  | none => .ok ()
  | some loc =>
    let opens := loc.contains '['
    let closes := loc.contains ']'
    if opens != closes then .error invalidBrackets
    else if opens then do
      checkBracketed (← bracketedHost loc)
      checkNormalized loc
    else checkNormalized loc

theorem check_plain (s : String)
    (h : ∀ loc, netloc? s = some loc →
      loc.contains '[' = false ∧ loc.contains ']' = false ∧ loc.any isDelimiterLookalike = false) :
    check s = .ok () := by
  unfold check
  cases hn : netloc? s with
  | none => rfl
  | some loc =>
    obtain ⟨h1, h2, h3⟩ := h loc hn
    simp only [h1, h2, checkNormalized, h3]
    rfl

end Telemetry.Net
