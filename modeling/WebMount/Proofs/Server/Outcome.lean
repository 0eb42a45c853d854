import WebMount.Proofs.Resource.Script
import WebMount.Proofs.Response.Buffered
import WebMount.Proofs.Server.Progress

/-!
# What the client gets

A receiver that stays to the end has what the program calls for where nothing fails, however the
moves were ordered (`Delivery.Faithful.outcome`): the head as the first operation that commits it
leaves it, all chunks, and the end that the result of the program asks for. Since the schedule does
not matter, the client gets the answer that the program makes when it runs alone
(`Delivery.answer_of_run`). Of a resource that succeeds this is what it leaves in a buffered
response (`Responder.answerOfResource_of_ok`).
-/

namespace WebMount

open WebMount.Response

namespace Delivery

variable {d : Delivery} {script : Script (Except ResourceError Unit)}

/-- How a response ends for its receiver if the program comes to a result. -/
inductive Ending (ops : List Op) : Except ResourceError Unit → List Arrival → Prop where
  /-- The program ends well: the body is complete. -/
  | complete : Ending ops (.ok ()) (.head (headAfter {} ops) ::
      (chunksAfter false ops).map .chunk ++ [.complete])
  /-- The program fails behind the head: the body breaks off with the failure. -/
  | brokenOff (e : ResourceError) (hcommits : ops.any Op.commits = true)
      (htold : e.isDefect = false) : Ending ops (.error e) (.head (headAfter {} ops) ::
        (chunksAfter false ops).map .chunk ++ [.failure (.other e.message)])
  /-- The program fails before the head: there is no response. -/
  | refused (e : ResourceError) (hopen : ops.any Op.commits = false) :
      Ending ops (.error e) [.refused]
  /-- The program is stopped by a defect behind the head: the body just ends. -/
  | stopped (e : ResourceError) (hcommits : ops.any Op.commits = true)
      (hdefect : e.isDefect = true) : Ending ops (.error e) (.head (headAfter {} ops) ::
        (chunksAfter false ops).map .chunk ++ [.complete])

/-- The end of a body holds no chunk. -/
theorem endOf_ne_chunk (committed : Bool) (result : Except ResourceError Unit)
    (bytes : Bytes) (tail : List Item) : endOf committed result ≠ .chunk bytes :: tail := by
  cases result with
  | ok => exact fun h => nomatch h
  | error e =>
    rw [endOf]
    split <;> simp [failureItem]

/-- Behind the head only a defect is not told. -/
theorem isDefect_of_endOf_nil {e : ResourceError} (h : endOf true (.error e) = []) :
    e.isDefect = true := by
  rw [endOf, Bool.true_and] at h
  split at h
  · exact absurd h (by simp)
  · next hsilent => simpa using hsilent

/-- A failure that is told belongs to a program that fails behind the head, and not by a defect. -/
theorem told_of_endOf_failure {committed : Bool} {result : Except ResourceError Unit}
    {cause : IoError} {rest : List Item} (h : endOf committed result = .failure cause :: rest) :
    ∃ e, result = .error e ∧ committed = true ∧ e.isDefect = false ∧
      cause = .other e.message := by
  cases result with
  | ok => exact absurd h (by simp [endOf])
  | error e =>
    rw [endOf] at h
    split at h
    · next htold =>
      rw [Bool.and_eq_true, Bool.not_eq_true'] at htold
      obtain ⟨hcommitted, hdefect⟩ := htold
      exact ⟨e, rfl, hcommitted, hdefect, (Item.failure.inj (List.cons.inj h).1).symm⟩
    · exact absurd h (by simp)

namespace Faithful

/-- A program that has come to its result has performed all its operations, and everything that they
call for was sent. -/
private theorem ended (h : Faithful script d) (hthere : d.link.receiver ≠ .gone)
    {result : Except ResourceError Unit}
    (hwriter : d.writer = .closing result ∨ d.writer = .closed result) :
    script.play = (d.begun, result) ∧ d.sent = (chunksAfter false d.begun).map .chunk ++
      endOf (d.begun.any Op.commits) result := by
  have hplays := h.account.plays hthere
  have hsends := h.account.sends hthere
  rcases hwriter with hwriter | hwriter
  · rw [hwriter] at hplays hsends
    exact ⟨hplays.symm.trans (by rw [Writer.rest, List.append_nil]),
      (List.append_nil _).symm.trans hsends⟩
  · rw [hwriter] at hplays hsends
    exact ⟨hplays.symm.trans (by rw [Writer.rest, List.append_nil]),
      (List.append_nil _).symm.trans hsends⟩

/-- A failure reaches only a receiver to whose writer the program has failed. -/
private theorem ended_of_failure (h : Faithful script d) (hthere : d.link.receiver ≠ .gone)
    {taken : List Bytes} {cause : IoError} {rest : List Item}
    (hsent : d.sent = taken.map .chunk ++ .failure cause :: rest) :
    ∃ result, d.writer = .closing result ∨ d.writer = .closed result := by
  have hchunks : ¬d.sent <+: (chunksAfter false d.begun).map .chunk := by
    rintro ⟨more, hmore⟩
    rw [hsent, List.append_assoc, List.cons_append] at hmore
    exact absurd hmore.symm chunks_ne_failure
  cases hwriter : d.writer with
  | running other =>
    have hsends := h.account.sends hthere
    rw [hwriter, due_running] at hsends
    exact absurd ⟨_, hsends⟩ hchunks
  | sending op bytes next =>
    exact absurd (h.sent_chunks hthere (.inl ⟨op, bytes, next, hwriter⟩)) hchunks
  | failing reason => exact absurd (h.sent_chunks hthere (.inr ⟨reason, hwriter⟩)) hchunks
  | closing result => exact ⟨result, .inl rfl⟩
  | closed result => exact ⟨result, .inr rfl⟩

/-- **The outcome does not depend on the schedule.** -/
theorem outcome (h : Faithful script d) (hfinished : d.link.receiver = .finished) :
    script.play.1 = d.begun ∧ Ending d.begun script.play.2 d.link.arrivals := by
  have hthere : d.link.receiver ≠ .gone := by simp [hfinished]
  -- how the receiver came to be done tells how the writer ended
  rcases h.carries.finished hfinished with ⟨harrivals, hopen, hclosed, -⟩ |
    ⟨taken, harrivals, hcommitted, hclosed, hsent⟩ |
    ⟨taken, cause, rest, harrivals, -, hsent⟩
  · obtain ⟨result, hwriter⟩ := Writer.exists_of_isClosed hclosed
    obtain ⟨hplay, -⟩ := h.ended hthere (.inr hwriter)
    rw [h.committed, hwriter, Bool.or_eq_false_iff] at hopen
    rw [hplay, harrivals]
    cases result with
    | ok => exact absurd hopen.2 (by simp [Writer.succeeded])
    | error e => exact ⟨rfl, .refused e hopen.1⟩
  · obtain ⟨result, hwriter⟩ := Writer.exists_of_isClosed hclosed
    obtain ⟨hplay, hdue⟩ := h.ended hthere (.inr hwriter)
    have hends : taken.map Item.chunk ++ [] = (chunksAfter false d.begun).map .chunk ++
        endOf (d.begun.any Op.commits) result := by
      rw [List.append_nil, ← hsent, hdue]
    obtain ⟨rfl, hnone⟩ := chunks_append_inj (by simp) (endOf_ne_chunk _ _) hends
    rw [h.committed, hwriter] at hcommitted
    rw [hplay, harrivals, h.head]
    cases result with
    | ok => exact ⟨rfl, .complete⟩
    | error e =>
      have hcommits : d.begun.any Op.commits = true :=
        (Bool.or_false _).symm.trans hcommitted
      rw [hcommits] at hnone
      exact ⟨rfl, .stopped e hcommits (isDefect_of_endOf_nil hnone.symm)⟩
  · obtain ⟨result, hwriter⟩ := h.ended_of_failure hthere hsent
    obtain ⟨hplay, hdue⟩ := h.ended hthere hwriter
    have hends := hsent.symm.trans hdue
    obtain ⟨rfl, hfailure⟩ := chunks_append_inj (by simp) (endOf_ne_chunk _ _) hends
    obtain ⟨e, rfl, hcommits, hdefect, rfl⟩ := told_of_endOf_failure hfailure.symm
    rw [hplay, harrivals, h.head]
    exact ⟨rfl, .brokenOff e hcommits hdefect⟩

end Faithful

/-! ### The answer of a program that runs alone -/

/-- A program runs on a link whose receiver waits: everything that it calls for is on its way. -/
theorem run_unread {s : Streaming} {items : List Item}
    (h : Link.Carries items false ⟨s, .waiting, []⟩) (p : Script (Except ResourceError Unit)) :
    (p.run s).1 = p.play.2 ∧
      Link.Carries (items ++ (chunksAfter s.committed p.play.1).map .chunk) false
        ⟨(p.run s).2, .waiting, []⟩ ∧
      (p.run s).2.head = (if s.committed then s.head else headAfter s.head p.play.1) ∧
      (p.run s).2.committed = (s.committed || p.play.1.any Op.commits) := by
  induction p generalizing s items with
  | done result =>
    refine ⟨rfl, ?_, ?_, (Bool.or_false _).symm⟩
    · rw [Script.play, chunksAfter, List.map_nil, List.append_nil]
      exact h
    · exact (ite_self _).symm
  | op op next ih =>
    -- the receiver is there, so the program goes on as if nothing could fail
    have hreceived : s.channel.received = true := h.received_iff.mpr (by simp)
    have hstep : Sink.step s op = (.ok (), (s.step op).2) := Streaming.step_of_received hreceived op
    obtain ⟨hresult, hcarries, hhead, hcommitted⟩ := ih (.ok ()) (h.step hreceived op)
    rw [Streaming.committed_step, Streaming.head_step] at hhead
    rw [Streaming.committed_step] at hcarries hcommitted
    rw [Script.run, hstep, Script.play]
    refine ⟨hresult, ?_, ?_, ?_⟩
    · rw [chunksAfter, List.map_append, ← List.append_assoc]
      exact hcarries
    · rw [hhead, headAfter]
      cases s.committed <;> cases op.commits <;> rfl
    · rw [hcommitted, List.any_cons, Bool.or_assoc]

/-- What a receiver gets who waits for all of a response. -/
private theorem response?_unread {s : Streaming} {items : List Item}
    (h : Link.Carries items false ⟨s, .waiting, []⟩) :
    s.response? = if s.committed then some ⟨s.head, (drain items).1, (drain items).2⟩ else none := by
  cases h with
  | silent => rfl
  | sent => rfl

private theorem drain_chunks (chunks : List Bytes) (ends : List Item) :
    drain (chunks.map .chunk ++ ends) = (chunks ++ (drain ends).1, (drain ends).2) := by
  induction chunks with
  | nil => rfl
  | cons bytes chunks ih =>
    rw [List.map_cons, List.cons_append, drain, ih]
    rfl

/-- What a client gets of a head, chunks and an end without bytes. -/
theorem ofArrivals_chunks (head : Head) (chunks : List Bytes) (ending : List Arrival)
    (hending : ending.flatMap Arrival.bytes = []) :
    Answer.ofArrivals (.head head :: chunks.map .chunk ++ ending) =
      { head, body := chunks.flatten, failure := ending.findSome? Arrival.failure? } := by
  have hnone : (chunks.map Arrival.chunk).findSome? Arrival.failure? = none := by
    rw [List.findSome?_map]
    exact List.findSome?_eq_none_iff.mpr fun _ _ => rfl
  rw [List.cons_append, Answer.ofArrivals, List.flatMap_append, flatMap_bytes_arrivals, hending,
    List.append_nil, List.findSome?_append, hnone, Option.none_or]

/-- **The client gets the answer of the program that runs alone.** -/
theorem Ending.answer {p : Script (Except ResourceError Unit)} {arrivals : List Arrival}
    (h : Ending p.play.1 p.play.2 arrivals) (capacity : Nat) :
    Answer.ofArrivals arrivals = Responder.answerOf (p.run (Streaming.create capacity)) := by
  obtain ⟨hresult, hcarries, hhead, hcommitted⟩ := run_unread (.create capacity) p
  -- from here on only what the program comes to matters, and what the link carries
  generalize p.run (Streaming.create capacity) = out at hresult hcarries hhead hcommitted ⊢
  obtain ⟨result, s⟩ := out
  obtain rfl : result = p.play.2 := hresult
  generalize p.play = played at h hcarries hhead hcommitted ⊢
  obtain ⟨ops, result⟩ := played
  change s.head = headAfter {} ops at hhead
  change s.committed = ops.any Op.commits at hcommitted
  change Link.Carries ((chunksAfter false ops).map .chunk) false ⟨s, .waiting, []⟩ at hcarries
  have hdrain := drain_chunks (chunksAfter false ops) []
  rw [List.append_nil] at hdrain
  cases h with
  | complete =>
    have hresponse := response?_unread hcarries.commit
    rw [Streaming.committed_commit, Streaming.head_commit, hhead, hdrain, if_pos rfl] at hresponse
    rw [ofArrivals_chunks _ _ _ rfl, Responder.answerOf, Responder.conclude, hresponse]
    simp [Answer.ofReceived, drain, Arrival.failure?]
  | brokenOff e hcommits htold =>
    have hconclude : Responder.conclude (.error e) s = (s.send (failureItem e)).2 := by
      rw [Responder.conclude, htold, Streaming.abort, hcommitted, if_pos hcommits]
      rfl
    have hreceived : s.channel.received = true := hcarries.received_iff.mpr (by simp)
    have hresponse := response?_unread
      (hcarries.send (hcommitted.trans hcommits) hreceived (failureItem e))
    rw [Streaming.committed_send, Streaming.head_send, hhead, hcommitted, if_pos hcommits,
      drain_chunks] at hresponse
    rw [ofArrivals_chunks _ _ _ rfl, Responder.answerOf, hconclude, hresponse]
    simp [Answer.ofReceived, drain, failureItem, Arrival.failure?]
  | refused e hopen =>
    have hconclude : Responder.conclude (.error e) s = s := by
      rw [Responder.conclude, Streaming.abort, hcommitted, hopen]
      exact ite_self s
    have hresponse := response?_unread hcarries
    rw [hcommitted, hopen, if_neg Bool.false_ne_true] at hresponse
    rw [Responder.answerOf, hconclude, hresponse]
    rfl
  | stopped e hcommits hdefect =>
    have hconclude : Responder.conclude (.error e) s = s := by
      rw [Responder.conclude, if_pos hdefect]
    have hresponse := response?_unread hcarries
    rw [hcommitted, if_pos hcommits, hhead, hdrain] at hresponse
    rw [ofArrivals_chunks _ _ _ rfl, Responder.answerOf, hconclude, hresponse]
    simp [Answer.ofReceived, drain, Arrival.failure?]

/-- **Every schedule delivers the answer of the resource.** A client that stays to the end of any
run has the answer that the server makes of the resource. -/
theorem answer_of_run (files : Storage) (resource : Resource) (settings : ResourceSettings)
    (request : Request) {moves : List Move} {d : Delivery}
    (hrun : (start chunksInFlight (resource.script files settings request)).run? moves = some d)
    (hfinished : d.link.receiver = .finished) :
    Answer.ofArrivals d.link.arrivals =
      Responder.answerOfResource files resource settings request := by
  obtain ⟨hplay, hending⟩ := ((Faithful.start _ _).run hrun).outcome hfinished
  rw [← hplay] at hending
  rw [hending.answer chunksInFlight, Responder.answerOfResource, Resource.run_script]

/-- **Delivery is faithful**, for every program, every capacity and every run. What has arrived is
nothing, or a refusal, or the head as the first operation that commits it leaves it, followed by
chunks that begin what was sent and what was written. No write that returns after the receiver has
left succeeds, unless it is empty. Runs are bounded, and where neither the writer nor the receiver
can move, the response is closed and the receiver is done with it, or left. A receiver that is done
has what the program calls for: if it ends well, the head, all chunks and the end; if it fails
behind the head, the head, all chunks and the failure; and if it fails before the head, a refusal,
of which the client gets an empty answer with status 500. -/
theorem delivery_faithful (capacity : Nat) (script : Script (Except ResourceError Unit))
    {moves : List Move} {d : Delivery} (hrun : (start capacity script).run? moves = some d) :
    (d.link.arrivals = [] ∨ d.link.arrivals = [.refused] ∨
      ∃ (taken : List Bytes) (ending : List Arrival),
        d.link.arrivals = .head (headAfter {} d.begun) :: taken.map .chunk ++ ending ∧
        taken.map .chunk <+: d.sent ∧ taken <+: chunksAfter false d.begun ∧
        (ending = [] ∨ ending = [.complete] ∨ ∃ cause, ending = [.failure cause])) ∧
    (∀ before after, d.log = before ++ .left :: after → ∀ bytes outcome,
      .returned (.write bytes) outcome ∈ after → bytes ≠ [] →
        ∃ e, outcome = .error e ∧ e.kind = .brokenPipe) ∧
    moves.length ≤ 3 * script.size + 6 ∧
    (d.write? = none → d.take? = none → d.writer.isClosed = true ∧
      (d.link.receiver = .finished ∨ d.link.receiver = .gone)) ∧
    (d.link.receiver = .finished →
      (script.play.2 = .ok () → d.link.arrivals = .head (headAfter {} script.play.1) ::
        (chunksAfter false script.play.1).map .chunk ++ [.complete]) ∧
      (∀ e, script.play.2 = .error e → script.play.1.any Op.commits = true →
        e.isDefect = false → d.link.arrivals = .head (headAfter {} script.play.1) ::
          (chunksAfter false script.play.1).map .chunk ++ [.failure (.other e.message)]) ∧
      (∀ e, script.play.2 = .error e → script.play.1.any Op.commits = false →
        d.link.arrivals = [.refused] ∧ Answer.ofArrivals d.link.arrivals = .empty 500)) := by
  have h := (Faithful.start capacity script).run hrun
  refine ⟨?_, ?_, ?_, h.stuck, ?_⟩
  · rcases h.carries.arrived with harrivals | harrivals | ⟨taken, ending, harrivals, hsent, hending⟩
    · exact .inl harrivals
    · exact .inr (.inl harrivals)
    · refine .inr (.inr ⟨taken, ending, ?_, hsent, ?_, hending⟩)
      · rw [harrivals, h.head]
      · -- what was sent is due, and what is due are chunks up to the end of the body
        have hdue := hsent.trans h.account.begins
        rw [due] at hdue
        refine chunks_prefix ?_ hdue
        intro bytes tail
        cases d.writer.result? with
        | none => simp
        | some result => exact endOf_ne_chunk _ _ bytes tail
  · intro before after hlog bytes outcome hreturned hbytes
    -- the two events stand in the log in this order, and any two such events exclude each other
    have hloses := h.loses
    rw [hlog, List.pairwise_append] at hloses
    have hlost := List.rel_of_pairwise_cons hloses.2.1 hreturned
    exact ⟨_, hlost rfl bytes outcome rfl hbytes, rfl⟩
  · have hle := length_add_weight_le hrun
    have hstart : (start capacity script).weight = 3 * script.size + 6 := rfl
    omega
  · intro hfinished
    obtain ⟨hplay, hending⟩ := h.outcome hfinished
    rw [← hplay] at hending
    refine ⟨?_, ?_, ?_⟩
    · intro hok
      rw [hok] at hending
      generalize d.link.arrivals = arrivals at hending ⊢
      cases hending with
      | complete => rfl
    · intro e herror hcommits htold
      rw [herror] at hending
      generalize d.link.arrivals = arrivals at hending ⊢
      cases hending with
      | brokenOff => rfl
      | refused _ hopen => exact absurd hopen (by simp [hcommits])
      | stopped _ _ hdefect => exact absurd hdefect (by simp [htold])
    · intro e herror hopen
      rw [herror] at hending
      generalize d.link.arrivals = arrivals at hending ⊢
      cases hending with
      | brokenOff _ hcommits => exact absurd hcommits (by simp [hopen])
      | refused => exact ⟨rfl, rfl⟩
      | stopped _ hcommits => exact absurd hcommits (by simp [hopen])

/-- A program writes twice and fails, on a channel with room for one chunk: its second write waits
until the receiver has taken the first one, and then both arrive, with the failure behind them. -/
theorem delivery_faithful_twice :
    let script : Script (Except ResourceError Unit) :=
      .op (.write [104]) fun _ => .op (.write [105]) fun _ => .done (.error .missingBody)
    let before : List Move := [.write, .write, .write]
    let after : List Move := [.take, .take, .write, .take, .write, .write, .take]
    (∃ d, (start 1 script).run? before = some d ∧ (d.write?).isNone = true) ∧
    ∃ d, (start 1 script).run? (before ++ after) = some d ∧ d.link.arrivals =
      [.head {}, .chunk [104], .chunk [105], .failure (.other ResourceError.missingBody.message)] := by
  intro script before after
  refine ⟨⟨_, rfl, rfl⟩, _, rfl, ?_⟩
  have hrun : (start 1 script).run? (before ++ after) = some _ := rfl
  obtain ⟨-, -, -, -, hend⟩ := delivery_faithful 1 script hrun
  exact (hend rfl).2.1 .missingBody rfl rfl rfl

end Delivery

/-! ### Answers from buffered responses -/

namespace Responder

variable {files : Storage} {resource : Resource} {settings : ResourceSettings} {request : Request}

/-- **The answer of a resource that succeeds is what it leaves in a buffered response.** -/
theorem answerOfResource_of_ok {b : Buffered}
    (h : resource.respond files settings request ({} : Buffered) = (.ok (), b)) :
    answerOfResource files resource settings request = { head := b.head, body := b.body } := by
  rw [← Resource.run_script, Script.run_buffered, Prod.mk.injEq] at h
  obtain ⟨hresult, rfl⟩ := h
  let ops := (resource.script files settings request).play.1
  have hending : Delivery.Ending ops (resource.script files settings request).play.2
      (.head (headAfter {} ops) :: (chunksAfter false ops).map .chunk ++ [.complete]) := by
    rw [hresult]
    exact .complete
  -- a client that reads to the end gets the answer of the program, and all that was written
  have hanswer := hending.answer chunksInFlight
  rw [Resource.run_script] at hanswer
  rw [answerOfResource, ← hanswer, Delivery.ofArrivals_chunks _ _ _ rfl, Buffered.head_foldl,
    Buffered.body_foldl fun _ => rfl]
  rfl

/-- The answer of a resource that a defect stops before it does anything. -/
theorem answerOfResource_of_crash {defect : Crash}
    (h : ∀ s : Streaming, resource.respond files settings request s =
      (.error (.crash defect), s)) :
    answerOfResource files resource settings request = .failed := by
  rw [answerOfResource, h]
  rfl

end Responder

end WebMount
