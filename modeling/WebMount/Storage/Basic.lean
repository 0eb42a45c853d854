import WebMount.Lookup
import WebMount.Storage.IoError
import WebMount.Storage.Path
import WebMount.Text.Utf8
import WebMount.Time.Instant

/-!
# Stored files

The files that a program can open, as a value. A directory exists if it was made or if anything
was put below it. Opening follows the components of a path from the top, and fails at the first
component that cannot be followed; a path that is too long as a whole is not followed at all.
-/

namespace WebMount

open WebMount.Time

/-- What a name in a directory can stand for. A locked entry exists but may not be opened. -/
inductive StoredEntry where
  | file (content : Bytes) (modified : Instant)
  | directory
  | locked
  deriving DecidableEq, Repr

/-- Stored files and directories by the components of their paths. -/
structure Storage where
  entries : List (List String × StoredEntry) := []
  deriving Repr

/-- What opening a path gives. -/
inductive OpenedFile where
  | regular (content : Bytes) (modified : Instant)
  | directory
  deriving DecidableEq, Repr

namespace Storage

/-- The components of a path by which entries are kept. -/
def components (path : String) : List String :=
  (Path.pieces path).filter fun p => p ≠ "" ∧ p ≠ "."

/-- The storage with an entry put at a path, in place of what was there. -/
def insert (s : Storage) (path : String) (entry : StoredEntry) : Storage :=
  ⟨put (components path) entry s.entries⟩

/-- The storage without what is at a path or below it. -/
def erase (s : Storage) (path : String) : Storage :=
  let key := components path
  ⟨s.entries.filter fun e => (Text.dropStart? key e.1).isNone⟩

/-- What is stored under the components of a path. -/
def entryAt? (s : Storage) (key : List String) : Option StoredEntry :=
  match s.entries.lookup key with
  | some entry => some entry
  | none =>
    if key = [] ∨ s.entries.any fun e => (Text.dropStart? key e.1).isSome then some .directory
    else none

/-- What is found by following the pieces of a path from the directory `here`. -/
def follow (s : Storage) (here : List String) : List String → Except IoError OpenedFile
  | [] =>
    match s.entryAt? here with
    | some (.file content modified) => .ok (.regular content modified)
    | some .directory => .ok .directory
    | some .locked => .error .permissionDenied
    | none => .error .notFound
  | piece :: pieces =>
    match s.entryAt? here with
    | none => .error .notFound
    | some .directory =>
      if piece = "" ∨ piece = "." then s.follow here pieces
      else if piece = ".." then s.follow here.dropLast pieces
      else if Path.maxComponent < piece.utf8ByteSize then .error .nameTooLong
      else s.follow (here ++ [piece]) pieces
    | some _ => .error .notADirectory

/-- Opens the file or directory at a path. -/
def open? (s : Storage) (path : String) : Except IoError OpenedFile :=
  if path = "" then .error .notFound
  else if path.toList.contains '\x00' then .error .nulInName
  else if Path.maxLength < path.utf8ByteSize then .error .nameTooLong
  else s.follow [] (Path.pieces path)

/-- The content of a file at a path. -/
def read (s : Storage) (path : String) : Except IoError Bytes :=
  match s.open? path with
  | .ok (.regular content _) => .ok content
  | .ok .directory => .error .isADirectory
  | .error e => .error e

end Storage

end WebMount
