import WebMount.Mount.Basic

/-!
# A mount that threads share

All threads that serve requests use one mount. Its filter path is kept in a cell that is filled
once. A thread that needs the path while the cell is empty claims the cell, looks at the stored
files, and fills the cell with the path that they give; whoever else needs the path meanwhile waits.
A path that is fixed by hand is put into the cell in the same way, and one that comes too late is
refused with the path that is there, which is read in a step of its own. Between any two steps of a
thread the others may make theirs, and the stored files may change.

An operation takes effect in the step that answers it, and the log has the operations in the order
of their effects. `Mount.perform` makes the operations one after the other instead.
-/

namespace WebMount

namespace Mount

/-! ### Operations by what they do with the filter path -/

namespace Operation

/-- Whether the operation needs the filter path, so that it is fixed afterwards. -/
def resolves : Operation → Bool
  | contextPath => false
  | isResolved => false
  | _ => true

/-- Whether the operation asks for an address, and neither puts in a filter path by hand nor asks if
there is one yet. -/
def asks : Operation → Bool
  | fix _ => false
  | isResolved => false
  | _ => true

/-- The filter path that the operation puts in where there is none. -/
def ownPath (files : Storage) (source : MountSource) : Operation → String
  | fix path => canonicalFilterPath path
  | _ => sourcePath files source

/-- The answer to the operation once the filter path is fixed. -/
def answerAt (contextPath path : String) : Operation → Answer
  | fix _ => .refused (.alreadyFixed path)
  | filterPath => .text path
  | .contextPath => .text contextPath
  | isResolved => .flag true
  | redirect requestPath query => .maybe (redirectTarget? contextPath path requestPath query)
  | relative requestPath => .maybe (relativeTo? contextPath path requestPath)
  | url below => .text (urlBelow contextPath path below)

/-- The answer to the operation where no filter path is fixed before it, given the one that it puts
in. -/
def firstAnswer (contextPath path : String) : Operation → Answer
  | fix _ => .done
  | isResolved => .flag false
  | op => op.answerAt contextPath path

end Operation

/-- Operations one after the other, each with the files that are stored at its time: the answers
and the mount afterwards. -/
def perform (m : Mount) : List (Storage × Operation) → List Answer × Mount
  | [] => ([], m)
  | (files, op) :: rest =>
    let (answer, m) := m.step files op
    let (answers, m) := m.perform rest
    (answer :: answers, m)

/-! ### Threads -/

/-- The place where the filter path is kept. -/
inductive Cell where
  | empty
  /-- A thread is finding the path. -/
  | claimed (thread : Nat)
  | full (path : String)
  deriving DecidableEq, Repr

/-- The path in the cell. -/
def Cell.path? : Cell → Option String
  | full path => some path
  | _ => none

/-- How far a thread is with an operation. -/
inductive Progress where
  | idle
  /-- The operation is called, and has not looked at the cell yet. -/
  | called (op : Operation)
  /-- The thread has claimed the cell for the operation. -/
  | finding (op : Operation)
  /-- The thread has claimed the cell, and has seen the stored files as they were then. -/
  | found (op : Operation) (files : Storage)
  /-- A path was to be fixed and came too late; the one that is fixed has still to be read. -/
  | late (path : String)

/-- The operation that has not been answered yet. -/
def Progress.pending : Progress → List Operation
  | idle => []
  | called op => [op]
  | finding op => [op]
  | found op _ => [op]
  | late path => [.fix path]

/-- The operation for which the thread has claimed the cell. -/
def Progress.claims? : Progress → Option Operation
  | finding op => some op
  | found op _ => some op
  | _ => none

/-- An operation that took effect, with the files that were stored when they were looked at. -/
structure Effect where
  thread : Nat
  files : Storage
  op : Operation
  answer : Answer

/-- The effect as it stands in a history. -/
def Effect.input (e : Effect) : Storage × Operation :=
  (e.files, e.op)

/-- Whether the operation fixed the filter path by hand. -/
def Effect.fixes (e : Effect) : Bool :=
  match e.op with
  | .fix _ => e.answer = .done
  | _ => false

end Mount

/-- A mount that threads share. -/
structure SharedMount where
  contextPath : String
  source : MountSource
  cell : Mount.Cell := .empty
  progress : Nat → Mount.Progress := fun _ => .idle
  /-- The operations that took effect, in order. -/
  log : List Mount.Effect := []

namespace SharedMount

open Mount

/-- A move of a thread. -/
inductive Move where
  /-- The thread calls an operation. -/
  | call (thread : Nat) (op : Operation)
  /-- The thread makes the next step of its operation. -/
  | advance (thread : Nat)
  deriving DecidableEq, Repr

/-- A shared mount whose filter path is not fixed yet. -/
def create (contextPath : String) (source : MountSource) : SharedMount :=
  { contextPath := canonicalContextPath contextPath, source }

/-- The mount as it is for someone who uses it alone. -/
def mount (s : SharedMount) : Mount :=
  { contextPath := s.contextPath, source := s.source, fixed := s.cell.path? }

/-- The shared mount with a thread being as far as given. -/
def setProgress (s : SharedMount) (thread : Nat) (p : Progress) : SharedMount :=
  { s with progress := fun other => if other = thread then p else s.progress other }

/-- The shared mount with the operation of a thread answered. -/
def finish (s : SharedMount) (thread : Nat) (files : Storage) (op : Operation)
    (answer : Mount.Answer) : SharedMount :=
  { s.setProgress thread .idle with log := s.log ++ [⟨thread, files, op, answer⟩] }

/-- The shared mount with the cell claimed by a thread for its operation. -/
def claim (s : SharedMount) (thread : Nat) (op : Operation) : SharedMount :=
  { s.setProgress thread (.finding op) with cell := .claimed thread }

/-- The shared mount with the cell filled by a thread, and its operation answered with that. -/
def fill (s : SharedMount) (thread : Nat) (seen : Storage) (op : Operation) : SharedMount :=
  let path := op.ownPath seen s.source
  { s.finish thread seen op (op.firstAnswer s.contextPath path) with cell := .full path }

/-- The first step of an operation that needs the filter path, unless the thread has to wait. -/
def enter? (s : SharedMount) (files : Storage) (thread : Nat) (op : Operation) :
    Option SharedMount :=
  match s.cell with
  | .empty => some (s.claim thread op)
  | .claimed _ => none
  | .full path =>
    match op with
    | .fix late => some (s.setProgress thread (.late late))
    | op => some (s.finish thread files op (op.answerAt s.contextPath path))

/-- The next step of a thread, unless it is idle or has to wait. -/
def advance? (s : SharedMount) (files : Storage) (thread : Nat) : Option SharedMount :=
  match s.progress thread with
  | .idle => none
  | .called .contextPath => some (s.finish thread files .contextPath (.text s.contextPath))
  | .called .isResolved => some (s.finish thread files .isResolved (.flag s.cell.path?.isSome))
  | .called op => s.enter? files thread op
  | .finding op => some (s.setProgress thread (.found op files))
  | .found op seen => some (s.fill thread seen op)
  | .late path =>
    s.cell.path?.map fun current =>
      s.finish thread files (.fix path) (.refused (.alreadyFixed current))

/-- A move, if it can be made. -/
def move? (s : SharedMount) (files : Storage) : Move → Option SharedMount
  | .call thread op =>
    match s.progress thread with
    | .idle => some (s.setProgress thread (.called op))
    | _ => none
  | .advance thread => s.advance? files thread

/-- Moves one after the other, each with the files that are stored at its time, if each can be made
when it is its turn. -/
def run? (s : SharedMount) : List (Storage × Move) → Option SharedMount
  | [] => some s
  | (files, move) :: moves => (s.move? files move).bind fun s => s.run? moves

/-- The operations that a thread calls in a schedule, in order. -/
def callsOf (thread : Nat) (schedule : List (Storage × Move)) : List Operation :=
  schedule.filterMap fun (_, move) =>
    match move with
    | .call other op => if other = thread then some op else none
    | .advance _ => none

/-- The operations of a thread that took effect, in order. -/
def doneBy (s : SharedMount) (thread : Nat) : List Operation :=
  s.log.filterMap fun e => if e.thread = thread then some e.op else none

end SharedMount

end WebMount
