import WebMount.Response.Command
import WebMount.Response.Transfer

/-!
# Bodies of resources

The body of a resource is written after the head was committed, by steps that are taken in order
up to the first one that fails. A command to the response fails only if it writes bytes; a flush
that the sink refuses is passed over.
-/

namespace WebMount

open WebMount.Response

/-- Why a resource does not answer a request. -/
inductive ResourceError where
  /-- There is data to be written, but no body to write it. -/
  | missingBody
  /-- Bytes could not be read or sent. -/
  | stream (cause : IoError)
  /-- The program that answers was stopped by a defect. -/
  | crash (defect : Crash)
  deriving DecidableEq, Repr

namespace ResourceError

/-- The wording of the reason. -/
def message : ResourceError → String
  | missingBody =>
    "ResourceResponse::set_write_callback must be called when resource data needs to be written"
  | stream cause => s!"failed to stream resource data: {cause.message}"
  | crash _ => "the program that answers was stopped"

/-- Whether the reason is a defect, after which nothing more is done for the response. -/
def isDefect : ResourceError → Bool
  | missingBody => false
  | stream _ => false
  | crash _ => true

/-- The reason for which a resource does not answer if a command to its response fails. -/
def ofFailure : Failure → ResourceError
  | .io cause => stream cause
  | .crash defect => crash defect

end ResourceError

/-- Copies what the reads of a stream deliver to a response. The result is the number of bytes
copied. What was written before a failure stays written. -/
def writeStream {σ : Type} [Sink σ] (s : σ) (rs : List ReadResult) :
    Except ResourceError Nat × σ :=
  let (result, out) := Output.copyFrom ⟨s, 0⟩ 0 rs
  (result.mapError .stream, out.sink)

/-- A step of writing a body. -/
inductive BodyStep where
  | command (c : Command)
  /-- Copies a stream to the response. -/
  | stream (pieces : List Piece)
  /-- Gives up. -/
  | fail (reason : ResourceError)
  deriving DecidableEq, Repr

namespace BodyStep

variable {σ : Type} [Sink σ]

/-- One step of writing a body: whether it succeeds, and the sink after it. -/
def take (s : σ) : BodyStep → Except ResourceError Unit × σ
  | command .flush => (.ok (), (perform s .flush).2)
  | command c =>
    let (result, s) := perform s c
    (result.mapError .ofFailure, s)
  | stream pieces =>
    let (result, out) := Output.copy ⟨s, 0⟩ pieces
    match result with
    | .ok _ => (.ok (), out.sink)
    | .error cause => (.error (.stream cause), out.sink)
  | fail reason => (.error reason, s)

/-- The steps of writing a body, up to the first one that fails. -/
def takeAll (s : σ) : List BodyStep → Except ResourceError Unit × σ
  | [] => (.ok (), s)
  | step :: steps =>
    match take s step with
    | (.ok (), s) => takeAll s steps
    | (.error e, s) => (.error e, s)

end BodyStep

end WebMount
