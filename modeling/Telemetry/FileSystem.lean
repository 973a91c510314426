import Telemetry.Fault
import Telemetry.Net.Address

/-!
Opening a file for reading, against a table of the files and directories a host has.

A path is walked one component at a time from the root, or from the working directory when it
is relative; empty components and `.` stay in place and `..` goes up, from the working directory
to the root. Every component but the last must lead to a directory, a component longer than 255
bytes is too long, and so is a whole path of 4096 bytes or more. A path that ends in `/` must name
a directory. A path holding a zero character cannot be opened at all.

A file is read by a path object, which writes its path in a normal form first: empty components
and `.` dropped, a trailing `/` dropped, and exactly two leading slashes kept as they are while
one or three or more become one. Both opening and the error messages see that form.
-/

namespace Telemetry

/-- What opening a path for reading finds. --/
inductive Opened where
  | file
  | directory
  | missing
  | notADirectory
  | nameTooLong
  | nullCharacter
  deriving DecidableEq, Repr, Inhabited

/-- The files and directories of a host, by their absolute paths; `.` is the working
directory. --/
structure FileSystem where
  files : List String
  directories : List String
  deriving Inhabited

namespace FileSystem

/-- The host an assembly runs against: the usual top-level directories and device files. --/
def host : FileSystem :=
  ⟨["/dev/null", "/dev/zero", "/dev/urandom", "/dev/random", "/etc/passwd", "/etc/group", "/etc/hosts",
    "/etc/hostname", "/etc/resolv.conf"],
   ["/", "/tmp", "/dev", "/etc", "/root", "/usr", "/var", "/home", "/proc", "/sys", "/run", "/opt",
    "/srv", "/mnt", "/media", "/boot", "/bin", "/sbin", "/lib", "/usr/bin", "/usr/sbin", "/usr/lib",
    "/usr/local", "/usr/local/bin", "/usr/local/lib", "/usr/share", "/usr/include", "/var/lib",
    "/var/log", "/var/tmp", "/var/cache", "/etc/ssl", "."]⟩

/-- What a normalized path names: a directory, a file, or nothing. --/
def find (fs : FileSystem) (p : String) : Option Bool :=
  if fs.directories.contains p then some true
  else if fs.files.contains p then some false
  else none

/-- The path one component further down. --/
def child (dir : String) (c : String) : String :=
  if dir == "/" then "/" ++ c else dir ++ "/" ++ c

/-- The path one component up: the root stays where it is, and the working directory, `.`, stands
right below the root. --/
def parent (dir : String) : String :=
  let up := ((dir.toList.reverse.dropWhile (· != '/')).drop 1).reverse
  if up.isEmpty then (if dir.startsWith "/" || dir == "." then "/" else ".") else String.ofList up

/-- Walk the components from a directory. --/
def walk (fs : FileSystem) (dir : String) (isDir : Bool) : List String → Opened
  | [] => if isDir then .directory else .file
  | c :: cs =>
    if !isDir then .notADirectory
    else if c.utf8ByteSize > 255 then .nameTooLong
    else
      let next := if c == "." then dir else if c == ".." then parent dir else child dir c
      match fs.find next with
      | some d => walk fs next d cs
      | none => .missing

/-- Open a path for reading. --/
def openPath (fs : FileSystem) (path : String) : Opened :=
  if path.contains (Char.ofNat 0) then .nullCharacter
  else if path.utf8ByteSize ≥ 4096 then .nameTooLong
  else
    let comps := (Net.pieces '/' path.toList).filter (!·.isEmpty) |>.map String.ofList
    let start := if path.startsWith "/" then "/" else "."
    match walk fs start true comps with
    | .file => if path.endsWith "/" then .notADirectory else .file
    | r => r

/-- The root a path starts from, as a path object writes it: two leading slashes stay two, and
one or three or more become one. --/
def rootOf : List Char → String
  | '/' :: '/' :: '/' :: _ => "/"
  | '/' :: '/' :: _ => "//"
  | '/' :: _ => "/"
  | _ => ""

/-- A path in the normal form of a path object: its root, then its components without the empty
ones and `.`, joined by `/`; nothing at all is `.`. --/
def normalize (path : String) : String :=
  let parts := (Net.pieces '/' path.toList).map String.ofList |>.filter (fun p => !p.isEmpty && p != ".")
  let root := rootOf path.toList
  if root.isEmpty && parts.isEmpty then "." else root ++ "/".intercalate parts

/-- The error of reading a path, if any: the path is opened, and quoted, in its normal form. --/
def readError (fs : FileSystem) (path : String) : Option Failure :=
  let path := normalize path
  let shown := Json.textLiteral path
  match fs.openPath path with
  | .file => none
  | .directory => some ⟨.isADirectoryError, "[Errno 21] Is a directory: " ++ shown⟩
  | .missing => some ⟨.fileNotFoundError, "[Errno 2] No such file or directory: " ++ shown⟩
  | .notADirectory => some ⟨.notADirectoryError, "[Errno 20] Not a directory: " ++ shown⟩
  | .nameTooLong => some ⟨.osError, "[Errno 36] File name too long: " ++ shown⟩
  | .nullCharacter => some ⟨.valueError, "embedded null byte"⟩

theorem readError_file (fs : FileSystem) (path : String) (h : fs.openPath (normalize path) = .file) :
    fs.readError path = none := by
  simp [readError, h]

end FileSystem

end Telemetry
