import WebMount.Server.Delivery

/-!
# Serving many requests at the same time

A server has many requests in work at the same time. A request is accepted, which finds out who
answers it; then the settings of that moment are loaded for it; a resource describes its answer with
them, and the answer is written and received in small steps. Other answers are made in one step.
Between any two steps of a request the others may make theirs, a new configuration may arrive, and
the stored files may change.
-/

namespace WebMount

open WebMount.Response

/-- Who answers a request, under whatever settings are loaded. -/
def Server.find (s : Server) (files : Storage) (request : Request) (settings : ResourceSettings) :
    Responder :=
  ({ s with settings }.dispatch files request).1

/-- The answer as it is sent to a request, which has the given id unless it brings one. -/
def Answer.sealed (a : Answer) (request : Request) (freshId : String) : Answer :=
  (a.withRequestId ((request.headers.get? requestIdField).getD freshId)).forMethod request.method

/-- The program that writes a described answer. -/
def Description.scriptOf (settings : ResourceSettings) (request : Request) :
    Except Crash Description → Script (Except ResourceError Unit)
  | .ok d => d.script settings request
  | .error defect => .done (.error (.crash defect))

/-- How far the answer to a request is. -/
inductive Job.Stage where
  /-- It is found out who answers, and the settings are not loaded yet. -/
  | found (responder : ResourceSettings → Responder)
  /-- The settings are loaded. -/
  | loaded (responder : Responder)
  /-- A resource has described its answer. -/
  | described (settings : ResourceSettings) (description : Except Crash Description)
  /-- The answer of a resource is being written and received. -/
  | delivering (delivery : Delivery)
  | answered (answer : Answer)

/-- A request that a server has in work. -/
structure Job where
  request : Request
  /-- The id of the request, unless it brings one. -/
  freshId : String
  stage : Job.Stage

/-- A step of a request in work. -/
inductive Job.Step where
  /-- The settings are loaded. -/
  | load
  /-- Whoever answers makes the next step. -/
  | proceed
  /-- The writer or the receiver of the answer makes a move. -/
  | deliver (move : Delivery.Move)
  deriving DecidableEq, Repr

/-- The next stage of a request after a step, if it can be made, with the settings of the server and
the files that are stored at its time. -/
def Job.Stage.next? (settings : ResourceSettings) (files : Storage) (request : Request)
    (freshId : String) : Stage → Step → Option Stage
  | found responder, .load => some (loaded (responder settings))
  | loaded (.resource r own), .proceed => some (described own (r.describe files own request))
  | loaded responder, .proceed =>
    some (answered ((responder.answer files request).sealed request freshId))
  | described own description, .proceed =>
    some (delivering (.start chunksInFlight (Description.scriptOf own request description)))
  | delivering d, .proceed =>
    match d.link.receiver with
    | .finished => some (answered ((Answer.ofArrivals d.link.arrivals).sealed request freshId))
    | _ => none
  | delivering d, .deliver move => (d.move? move).map delivering
  | _, _ => none

/-- The request after a step. -/
def Job.step? (settings : ResourceSettings) (files : Storage) (j : Job) (step : Step) :
    Option Job :=
  (j.stage.next? settings files j.request j.freshId step).map fun stage => { j with stage }

/-- A server with the requests that it has in work, in the order in which they were accepted. -/
structure Service where
  server : Server
  jobs : List Job := []

/-- A move of a server with requests in work. -/
inductive Service.Move where
  /-- A new configuration arrives. -/
  | reload (config : Config)
  /-- A request arrives. -/
  | accept (request : Request) (freshId : String)
  /-- A request makes a step. -/
  | advance (job : Nat) (step : Job.Step)

/-- Whether a request arrives with a move. -/
def Service.Move.isAccept : Move → Bool
  | accept _ _ => true
  | _ => false

namespace Service

/-- A server that begins with a configuration and has nothing in work. -/
def start (s : Server) (config : Config) : Service :=
  { server := s.reload config }

/-- A move, if it can be made. -/
def move? (s : Service) (files : Storage) : Move → Option Service
  | .reload config => some { s with server := s.server.reload config }
  | .accept request freshId =>
    let job := { request, freshId, stage := .found (s.server.find files request) }
    some { server := (s.server.dispatch files request).2, jobs := s.jobs ++ [job] }
  | .advance i step => do
    let job ← s.jobs[i]?
    let job ← job.step? s.server.settings files step
    return { s with jobs := s.jobs.set i job }

/-- Moves one after the other, each with the files that are stored at its time, if each can be made
when it is its turn. -/
def run? (s : Service) : List (Storage × Move) → Option Service
  | [] => some s
  | (files, move) :: moves => (s.move? files move).bind fun s => s.run? moves

/-- The answer to a request, if it is complete. -/
def answer? (s : Service) (job : Nat) : Option Answer :=
  match s.jobs[job]?.map Job.stage with
  | some (.answered answer) => some answer
  | _ => none

/-- The configuration that arrived last, or the one to begin with. -/
def lastApplied (config : Config) : List (Storage × Move) → Config
  | [] => config
  | (_, .reload config) :: moves => lastApplied config moves
  | _ :: moves => lastApplied config moves

/-- The mount after the requests that arrived. -/
def mountAfter (m : Mount) : List (Storage × Move) → Mount
  | [] => m
  | (files, .accept _ _) :: moves => mountAfter (m.resolve files) moves
  | _ :: moves => mountAfter m moves

/-- A server that began with a configuration, after moves. -/
def serverAfter (s : Server) (config : Config) (moves : List (Storage × Move)) : Server :=
  { s with
    mount := mountAfter s.mount moves
    settings := .ofConfig (lastApplied config moves).resources }

/-- The number of the requests that arrived. -/
def accepted (moves : List (Storage × Move)) : Nat :=
  moves.countP fun (_, move) => move.isAccept

end Service

end WebMount
