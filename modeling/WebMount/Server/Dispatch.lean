import WebMount.Server.Answer
import WebMount.Server.Basic

/-!
# Dispatch of requests

A request for the mount itself is redirected; any other request is answered by what its path
addresses below the mount. Dispatch finds out who answers, with the settings of that moment, and
the answer is made afterwards, so that the server can change while it is being made. Every answer
carries the id of its request, and the method of the request says whether its body is sent.
-/

namespace WebMount

open WebMount.Response

/-- The number of chunks of a streamed body that can be on their way. -/
def chunksInFlight : Nat := 8

/-- Who answers a request. -/
inductive Responder where
  | redirect (location : String)
  | nobody
  | resource (resource : Resource) (settings : ResourceSettings)
  | suggestions (field : SuggestionField)

namespace Responder

/-- The response of a resource that is done: complete, or given up with the reason. A resource
that was stopped by a defect leaves its response as it is. -/
def conclude (result : Except ResourceError Unit) (r : Streaming) : Streaming :=
  match result with
  | .ok () => r.commit
  | .error e => if e.isDefect then r else r.abort (.other e.message)

/-- The answer that is made of the result and the response of a resource that is done. A resource
that sends no head at all has failed. -/
def answerOf (outcome : Except ResourceError Unit × Streaming) : Answer :=
  match (conclude outcome.1 outcome.2).response? with
  | some received => .ofReceived received
  | none => .failed

/-- The answer of a resource. -/
def answerOfResource (files : Storage) (resource : Resource) (settings : ResourceSettings)
    (request : Request) : Answer :=
  answerOf (resource.respond files settings request (Streaming.create chunksInFlight))

/-- The answer of a suggestion field. -/
def answerOfField (field : SuggestionField) (request : Request) : Answer :=
  match field.respond request ({} : Buffered) with
  | (.ok (), r) => .ofBuffered r
  | (.error _, _) => .failed

/-- The answer to a request. -/
def answer (files : Storage) (request : Request) : Responder → Answer
  | redirect location => .redirect location
  | nobody => .notFound
  | resource r settings => answerOfResource files r settings request
  | suggestions field => answerOfField field request

end Responder

namespace Server

/-- Who answers what a path below the mount addresses. -/
def responderFor (s : Server) : Option Target → Responder
  | some (.resource scope name) =>
    match s.resources.get? ⟨scope, name⟩ with
    | some r => .resource r s.settings
    | none => .nobody
  | some (.suggestions id) =>
    match s.fields.get? id with
    | some field => .suggestions field
    | none => .nobody
  | none => .nobody

/-- Who answers a request, and the server with its filter path found. -/
def dispatch (s : Server) (files : Storage) (request : Request) : Responder × Server :=
  let contextPath := s.mount.contextPath
  let filterPath := s.mount.filterPath files
  let responder :=
    match Mount.redirectTarget? contextPath filterPath request.path request.queryText with
    | some location => .redirect location
    | none =>
      let below := Mount.relativeTo? contextPath filterPath request.path
      s.responderFor (below.bind (Route.resolve? s.routes))
  (responder, { s with mount := s.mount.resolve files })

/-- The answer to a request, and the server after it. The request has the given id unless it
brings one. -/
def respond (s : Server) (files : Storage) (freshId : String) (request : Request) :
    Answer × Server :=
  let (responder, s) := s.dispatch files request
  let id := (request.headers.get? Answer.requestIdField).getD freshId
  let answer := (responder.answer files request).withRequestId id
  (answer.forMethod request.method, s)

end Server

end WebMount
