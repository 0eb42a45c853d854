import WebMount.Resource.Basic
import WebMount.Response.Script

/-!
# Resources as programs

What a resource does to its response, written out as one program. Run on a sink that interrupts no
write, the program does what the resource does; as a program it can be stopped between two
operations.
-/

namespace WebMount

open WebMount.Response

/-- The program of a command. -/
def Response.Command.script (c : Command) : Script (Except Failure Unit) :=
  match c.ops with
  | .error defect => .done (.error (.crash defect))
  | .ok ops => (Script.ofOps ops).map (·.mapError .io)

/-- The program of commands, up to the first one that does not succeed. -/
def Response.Command.scriptAll : List Command → Script (Except Failure Unit)
  | [] => .done (.ok ())
  | c :: cs => c.script.andThen (scriptAll cs)

/-- The program that copies what the reads of a stream deliver. Each chunk is written once. -/
def Response.copyScript : List ReadResult → Script (Except IoError Unit)
  | [] => .done (.ok ())
  | .interrupted :: rest => copyScript rest
  | .failing cause :: _ => .done (.error cause)
  | .bytes chunk :: rest =>
    if chunk = [] then .done (.ok ())
    else
      .op (.write chunk) fun
        | .ok () => copyScript rest
        | .error cause => .done (.error cause)

/-- The program of a step of writing a body. -/
def BodyStep.script : BodyStep → Script (Except ResourceError Unit)
  | command .flush => (Command.script .flush).map fun _ => .ok ()
  | command c => c.script.map (·.mapError .ofFailure)
  | stream pieces => (copyScript (reads pieces)).map (·.mapError .stream)
  | fail reason => .done (.error reason)

/-- The program of the steps of writing a body, up to the first one that fails. -/
def BodyStep.scriptAll : List BodyStep → Script (Except ResourceError Unit)
  | [] => .done (.ok ())
  | step :: steps => step.script.andThen (scriptAll steps)

namespace Description

/-- The program of commands on behalf of a resource. -/
def sayScript (commands : List Command) : Script (Except ResourceError Unit) :=
  (Command.scriptAll commands).map (·.mapError .ofFailure)

/-- The program that answers a request as described. -/
def script (d : Description) (settings : ResourceSettings) (request : Request) :
    Script (Except ResourceError Unit) :=
  (sayScript (d.commonCommands request)).andThen <|
    if !d.needsData request then sayScript [.status 304]
    else
      match d.errorCode, d.body with
      | some code, _ => sayScript [.error code d.errorMessage]
      | none, none => .done (.error .missingBody)
      | none, some body =>
        (sayScript (d.contentCommands settings.mediaTypes)).andThen (BodyStep.scriptAll body)

end Description

/-- The program that answers a request for a resource. -/
def Resource.script (r : Resource) (files : Storage) (settings : ResourceSettings)
    (request : Request) : Script (Except ResourceError Unit) :=
  match r.describe files settings request with
  | .ok d => d.script settings request
  | .error defect => .done (.error (.crash defect))

end WebMount
