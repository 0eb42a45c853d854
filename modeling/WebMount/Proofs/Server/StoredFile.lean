import WebMount.Proofs.Resource.BuiltIn
import WebMount.Proofs.Resource.Defect
import WebMount.Proofs.Server.Serving

/-!
# Stored files are served

Of the dates of an answer about a stored file, the expiry lies at most a year behind the request, so
up to the year 9999 it can always be written (`writable_expiry`). Thus the date of the modification
alone decides whether the file is served or a defect stops every answer about it
(`FileResource.served_iff_writable`).
-/

namespace WebMount

open WebMount.Response WebMount.Time

namespace Answer

/-- The client has the content: the answer holds all of it, or says that the copy of the client is
current. -/
def Serves (answer : Answer) (content : Bytes) : Prop :=
  answer.failure = none ∧
    (answer.head.status = 200 ∧ answer.body = content ∨
      answer.head.status = 304 ∧ answer.body = [])

theorem not_serves_failed (content : Bytes) : ¬failed.Serves content := by
  rintro ⟨-, ⟨hstatus, -⟩ | ⟨hstatus, -⟩⟩ <;> exact absurd hstatus (by decide)

end Answer

namespace FileResource

variable {f : FileResource} {files : Storage} {settings : ResourceSettings} {request : Request}
  {content : Bytes} {modified : Instant}

/-- The second with which the year 9999 begins. -/
def startOfLastYear : Nat := 253370764800

/-- What expires within the longest lifetime after an instant before the year 9999 expires at one
that can be written. -/
theorem writable_expiry {t : Instant} (hfrom : 0 ≤ t.nanos) (huntil : t.seconds < startOfLastYear)
    (lifetime : Duration) : HttpDate.Writable (t.after (lifetime.atMost maxLifetime)) := by
  have hyear : (lifetime.atMost maxLifetime).nanos ≤ 31536000 * nanosPerSecond :=
    Nat.min_le_right _ _
  simp only [HttpDate.Writable, Instant.after, Instant.seconds, HttpDate.endOfDates,
    startOfLastYear, nanosPerSecond] at *
  omega

/-- The dates of an answer about a file can be written if that of its modification can. -/
theorem datesWritable (hopen : files.open? f.path = .ok (.regular content modified))
    (hfrom : 0 ≤ request.received.nanos) (huntil : request.received.seconds < startOfLastYear)
    (h : HttpDate.Writable modified) :
    (BuiltIn.file f).DatesWritable files settings request.received := by
  refine ⟨⟨hfrom, ?_⟩, fun t ht => ?_, fun _ => writable_expiry hfrom huntil _⟩
  · unfold startOfLastYear at huntil
    unfold HttpDate.endOfDates
    omega
  · rw [BuiltIn.modified?, hopen] at ht
    obtain rfl := Option.some.inj ht
    exact h

/-- The body of a file is a copy, if there is one. -/
theorem sound_describe (f : FileResource) (files : Storage) (settings : ResourceSettings)
    (request : Request) {steps : List BodyStep}
    (h : (f.describe files settings request).body = some steps) : ∀ step ∈ steps, step.Sound := by
  have hcopy : ∀ pieces : List Piece, ∀ step ∈ [BodyStep.stream pieces], step.Sound := by
    intro pieces step hstep
    rw [List.mem_singleton.mp hstep]
    exact trivial
  unfold describe at h
  dsimp only at h
  split at h
  · exact nomatch h
  · exact nomatch h
  · split at h
    · obtain rfl := Option.some.inj h
      exact hcopy _
    · exact nomatch h

/-- A file whose dates can be written leaves a response that holds it, or says that it was not
modified. -/
theorem exists_respond (hopen : files.open? f.path = .ok (.regular content modified))
    (h : (BuiltIn.file f).DatesWritable files settings request.received) :
    ∃ b, (Resource.file f).respond files settings request ({} : Buffered) = (.ok (), b) ∧
      ((BuiltIn.file f).Unmodified files request → b.head.status = 304 ∧ b.body = []) ∧
      (¬(BuiltIn.file f).Unmodified files request → b.head.status = 200 ∧ b.body = content) := by
  have hd := BuiltIn.describes_file f files settings request
  have hdates := BuiltIn.datesWritable_of_describes hd h
  have hcond : (f.describe files settings request).NotModified request ↔
      (BuiltIn.file f).Unmodified files request := by
    rw [Description.NotModified, hd.modified]
    rfl
  have hrespond : (Resource.file f).respond files settings request ({} : Buffered) =
      (f.describe files settings request).respond settings request {} := rfl
  by_cases hun : (BuiltIn.file f).Unmodified files request
  · rw [hrespond, Description.respond_of_notModified settings hdates (hcond.mpr hun)]
    exact ⟨_, rfl, fun _ => ⟨rfl, rfl⟩, fun hnot => absurd hun hnot⟩
  · have hheld : (BuiltIn.file f).held files request = .ok content := by
      rw [BuiltIn.held, hopen]
    obtain ⟨b, hb, hcomplete⟩ := BuiltIn.exists_complete_of_delivers settings hdates
      (fun hnot => hun (hcond.mp hnot)) (fun _ => BuiltIn.status_of_held_error) (hd.delivers hun)
    rw [hheld] at hcomplete
    exact ⟨b, hrespond.trans hb, fun hnot => absurd hnot hun,
      fun _ => ⟨hcomplete.1, hcomplete.2.1⟩⟩

/-- A file whose modification cannot be written is not answered at all. -/
theorem respond_of_unwritable (hopen : files.open? f.path = .ok (.regular content modified))
    (h : ¬HttpDate.Writable modified) {σ : Type} [Sink σ] (s : σ) :
    (Resource.file f).respond files settings request s =
      (.error (.crash (.unwritableDate modified)), s) := by
  have hmodified := (BuiltIn.describes_file f files settings request).modified
  rw [BuiltIn.modified?, hopen] at hmodified
  exact Description.respond_of_unwritable settings hmodified h s

/-- No defect stops the answer about a file whose dates can be written, on whatever sink. -/
theorem respond_ne_crash (h : (BuiltIn.file f).DatesWritable files settings request.received)
    {σ : Type} [Sink σ] (s : σ) (defect : Crash) :
    ((Resource.file f).respond files settings request s).1 ≠ .error (.crash defect) := by
  have hd := BuiltIn.describes_file f files settings request
  exact Description.respond_ne_crash settings (BuiltIn.datesWritable_of_describes hd h)
    (fun _ => sound_describe f files settings request) s defect

/-- A file whose dates can be written is served, with status 304 exactly if it was not modified. -/
theorem serves_of_writable (hopen : files.open? f.path = .ok (.regular content modified))
    (h : (BuiltIn.file f).DatesWritable files settings request.received) :
    (Responder.answerOfResource files (.file f) settings request).Serves content ∧
      ((Responder.answerOfResource files (.file f) settings request).head.status = 304 ↔
        (BuiltIn.file f).Unmodified files request) := by
  obtain ⟨b, hb, hun, hsend⟩ := exists_respond hopen h
  rw [Responder.answerOfResource_of_ok hb]
  by_cases hcond : (BuiltIn.file f).Unmodified files request
  · exact ⟨⟨rfl, .inr (hun hcond)⟩, fun _ => hcond, fun _ => (hun hcond).1⟩
  · refine ⟨⟨rfl, .inl (hsend hcond)⟩, fun hstatus => ?_, fun hnot => absurd hnot hcond⟩
    exact absurd ((hsend hcond).1.symm.trans hstatus) (by decide)

/-- **A stored file is served exactly if the date of its modification can be written.** The request
may be any that arrives from 1970 to the end of 9998. A defect stops the answer, on whatever sink,
exactly if that date cannot be written, and then the answer of the server is a failure. Otherwise
the client gets the content, or status 304 exactly if the file was not modified since the instant
that the request names. What is said of the answer of the server holds of every delivery to a client
that stays to its end, and of every server that finds the file for the request. -/
theorem served_iff_writable (f : FileResource) (files : Storage) (settings : ResourceSettings)
    (request : Request) {content : Bytes} {modified : Instant}
    (hopen : files.open? f.path = .ok (.regular content modified))
    (hfrom : 0 ≤ request.received.nanos) (huntil : request.received.seconds < startOfLastYear) :
    let answer := Responder.answerOfResource files (.file f) settings request
    (∀ (σ : Type) [Sink σ] (s : σ), (∃ defect, ((Resource.file f).respond files settings request
      s).1 = .error (.crash defect)) ↔ ¬HttpDate.Writable modified) ∧
    (answer.Serves content ↔ HttpDate.Writable modified) ∧
    (HttpDate.Writable modified →
      (answer.head.status = 304 ↔ (BuiltIn.file f).Unmodified files request)) ∧
    (¬HttpDate.Writable modified → answer = .failed) ∧
    (∀ moves d, (Delivery.start chunksInFlight
        ((Resource.file f).script files settings request)).run? moves = some d →
      d.link.receiver = .finished → Answer.ofArrivals d.link.arrivals = answer) ∧
    ∀ (s : Server) (freshId : String),
      (s.dispatch files request).1 = .resource (.file f) settings →
        (s.respond files freshId request).1 = answer.sealed request freshId ∧
        (s.respond files freshId request).1.head.status = answer.head.status := by
  intro answer
  have hdates : HttpDate.Writable modified →
      (BuiltIn.file f).DatesWritable files settings request.received :=
    datesWritable hopen hfrom huntil
  have hfailed : ¬HttpDate.Writable modified → answer = .failed := fun h =>
    Responder.answerOfResource_of_crash (respond_of_unwritable hopen h)
  refine ⟨?_, ⟨?_, fun h => (serves_of_writable hopen (hdates h)).1⟩,
    fun h => (serves_of_writable hopen (hdates h)).2, hfailed, ?_, ?_⟩
  · intro σ _ s
    constructor
    · rintro ⟨defect, hcrash⟩ h
      exact respond_ne_crash (hdates h) s defect hcrash
    · exact fun h => ⟨_, by rw [respond_of_unwritable hopen h]⟩
  · intro hserves
    refine Classical.byContradiction fun h => Answer.not_serves_failed content ?_
    rwa [← hfailed h]
  · exact fun moves d hrun hfinished =>
      Delivery.answer_of_run files (.file f) settings request hrun hfinished
  · intro s freshId hfound
    have hsealed : (s.respond files freshId request).1 = answer.sealed request freshId := by
      rw [Service.respond_eq, Server.find, hfound]
      rfl
    exact ⟨hsealed, by rw [hsealed, Answer.status_sealed]⟩

/-- A storage with one file, which was modified at an instant. -/
def notesFrom (modified : Instant) : Storage :=
  ⟨[(["notes.txt"], .file [104, 105] modified)]⟩

theorem open?_notesFrom (modified : Instant) :
    (notesFrom modified).open? "/notes.txt" = .ok (.regular [104, 105] modified) :=
  rfl

/-- A file of 1994 is served. -/
theorem served_iff_writable_notes :
    let request : Request := { path := "/notes.txt", received := .ofSeconds 784111800 }
    (Responder.answerOfResource (notesFrom (.ofSeconds 784111777)) (.file { path := "/notes.txt" })
      ⟨.ofSeconds 3600, {}⟩ request).Serves [104, 105] :=
  (served_iff_writable { path := "/notes.txt" } (notesFrom (.ofSeconds 784111777))
    ⟨.ofSeconds 3600, {}⟩ { path := "/notes.txt", received := .ofSeconds 784111800 }
    (open?_notesFrom _) (by decide) (by decide)).2.1.mpr ⟨by decide, by decide⟩

/-- A file of the last second of 1969 can be opened, but a defect stops every answer about it. -/
theorem not_served_before_epoch :
    let files := notesFrom (.ofSeconds (-1))
    let f : FileResource := { path := "/notes.txt" }
    let request : Request := { path := "/notes.txt", received := .ofSeconds 784111800 }
    let answer := Responder.answerOfResource files (.file f) ⟨.ofSeconds 3600, {}⟩ request
    files.open? f.path = .ok (.regular [104, 105] (.ofSeconds (-1))) ∧
    0 ≤ request.received.nanos ∧ request.received.seconds < startOfLastYear ∧
    ((Resource.file f).respond files ⟨.ofSeconds 3600, {}⟩ request ({} : Buffered)).1 =
      .error (.crash (.unwritableDate (.ofSeconds (-1)))) ∧
    answer.head.status = 500 ∧ ¬answer.Serves [104, 105] := by
  intro files f request answer
  have hopen : files.open? f.path = .ok (.regular [104, 105] (.ofSeconds (-1))) :=
    open?_notesFrom _
  have hunwritable : ¬HttpDate.Writable (.ofSeconds (-1)) := fun h => absurd h.1 (by decide)
  have hfailed : answer = .failed :=
    Responder.answerOfResource_of_crash (respond_of_unwritable hopen hunwritable)
  refine ⟨hopen, by decide, by decide, ?_, ?_, ?_⟩
  · rw [respond_of_unwritable hopen hunwritable]
  · rw [hfailed]
    decide
  · rw [hfailed]
    exact Answer.not_serves_failed _

end FileResource

end WebMount
