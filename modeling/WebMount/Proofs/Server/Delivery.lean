import WebMount.Proofs.Response.Reception
import WebMount.Proofs.Response.Streaming
import WebMount.Server.Delivery

/-!
# Delivery is faithful

Whatever the order of the moves, a delivery keeps to its program: the head is as the operations that
took effect leave it, the items that were sent are those that the operations call for, the link
carries them, and as long as the receiver stays, what was performed and what is left to perform make
up the program as it plays where nothing fails (`Delivery.Faithful`). What the program calls for is
an account of its own, apart from the channel (`Delivery.Account`). Each kind of step has its law,
and `Faithful.run` puts them together.
-/

namespace WebMount

open WebMount.Response

/-! ### What a writer is about to do -/

namespace Writer

/-- The result of the program, once it has ended. -/
def result? : Writer → Option (Except ResourceError Unit)
  | running _ => none
  | sending _ _ _ => none
  | failing reason => some (.error reason)
  | closing result => some result
  | closed result => some result

/-- Whether the program has ended well. -/
def succeeded : Writer → Bool
  | closing (.ok ()) => true
  | closed (.ok ()) => true
  | _ => false

theorem exists_of_isClosed {w : Writer} (h : w.isClosed = true) : ∃ result, w = .closed result := by
  cases w with
  | closed result => exact ⟨result, rfl⟩
  | running | sending | failing | closing => exact absurd h (by simp [isClosed])

/-- What the program still performs where nothing fails, and the result that it comes to. -/
def rest : Writer → List Op × Except ResourceError Unit
  | running script => script.play
  | sending _ _ next => (next (.ok ())).play
  | failing reason => ([], .error reason)
  | closing result => ([], result)
  | closed result => ([], result)

/-- What the writer has still to send of what it has begun. -/
def pending : Writer → List Item
  | running _ => []
  | sending _ bytes _ => [.chunk bytes]
  | failing reason => [Delivery.failureItem reason]
  | closing _ => []
  | closed _ => []

end Writer

namespace Delivery

/-- How a program that comes to a result ends the body behind its chunks. -/
def endOf (committed : Bool) : Except ResourceError Unit → List Item
  | .ok () => []
  | .error e => if committed && !e.isDefect then [failureItem e] else []

/-- The items that the operations that have begun call for, and the end of the body if the program
has ended. -/
def due (writer : Writer) (begun : List Op) : List Item :=
  (chunksAfter false begun).map .chunk ++
    match writer.result? with
    | none => []
    | some result => endOf (begun.any Op.commits) result

/-- What was sent, and what is left to the writer, are accounted for by the program. The account
is complete as long as the receiver is there. -/
structure Account (script : Script (Except ResourceError Unit)) (there : Prop) (writer : Writer)
    (begun : List Op) (sent : List Item) : Prop where
  begins : sent <+: due writer begun
  sends : there → sent ++ writer.pending = due writer begun
  plays : there → (begun ++ writer.rest.1, writer.rest.2) = script.play
  fails : ∀ reason, writer = .failing reason →
    endOf (begun.any Op.commits) (.error reason) = [failureItem reason]

/-- If the one event is that the receiver left, the other one is not a write that succeeded. -/
def LostAfter (e f : Event) : Prop :=
  e = .left → ∀ bytes outcome, f = .returned (.write bytes) outcome → bytes ≠ [] →
    outcome = .error .receiverGone

/-- The delivery keeps to its program. -/
structure Faithful (script : Script (Except ResourceError Unit)) (d : Delivery) : Prop where
  head : d.link.sink.head = headAfter {} d.begun
  committed : d.link.sink.committed = (d.begun.any Op.commits || d.writer.succeeded)
  room : 1 ≤ d.link.sink.channel.capacity
  carries : d.link.Carries d.sent d.writer.isClosed
  account : Account script (d.link.receiver ≠ .gone) d.writer d.begun d.sent
  leaves : .left ∈ d.log → d.link.receiver = .gone
  loses : d.log.Pairwise LostAfter

/-! ### The account of the program -/

section Account

variable {script : Script (Except ResourceError Unit)} {there : Prop} {begun : List Op}
  {sent : List Item} {op : Op} {bytes : Bytes}
  {next : Except IoError Unit → Script (Except ResourceError Unit)}

/-- The pieces of the operations that have begun, with one more of them. -/
theorem chunksAfter_concat (ops : List Op) (op : Op) :
    chunksAfter false (ops ++ [op]) =
      chunksAfter false ops ++ (op.piece? (ops.any Op.commits)).toList := by
  rw [chunksAfter_append, Bool.false_or, chunksAfter, chunksAfter, List.append_nil]

theorem due_running (script : Script (Except ResourceError Unit)) (begun : List Op) :
    due (.running script) begun = (chunksAfter false begun).map .chunk :=
  List.append_nil _

theorem due_sending (op : Op) (bytes : Bytes)
    (next : Except IoError Unit → Script (Except ResourceError Unit)) (begun : List Op) :
    due (.sending op bytes next) begun = (chunksAfter false begun).map .chunk :=
  List.append_nil _

/-- An operation begins, with a piece of the body or without. -/
theorem Account.begin (h : Account script there (.running (.op op next)) begun sent) :
    sent <+: (chunksAfter false (begun ++ [op])).map .chunk ∧
    (there → sent ++ (op.piece? (begun.any Op.commits)).toList.map .chunk =
      (chunksAfter false (begun ++ [op])).map .chunk) ∧
    (there → ((begun ++ [op]) ++ (next (.ok ())).play.1, (next (.ok ())).play.2) =
      script.play) := by
  have hchunks : (chunksAfter false (begun ++ [op])).map Item.chunk =
      (chunksAfter false begun).map .chunk ++
        (op.piece? (begun.any Op.commits)).toList.map .chunk := by
    rw [chunksAfter_concat, List.map_append]
  have hbegins := h.begins
  rw [due_running] at hbegins
  refine ⟨?_, ?_, ?_⟩
  · rw [hchunks]
    exact hbegins.trans (List.prefix_append _ _)
  · intro hthere
    have hsends := h.sends hthere
    rw [due_running] at hsends
    rw [hchunks, ← hsends, List.append_assoc]
    rfl
  · intro hthere
    rw [← h.plays hthere, List.append_assoc]
    rfl

theorem Account.quiet (h : Account script there (.running (.op op next)) begun sent)
    (hpiece : op.piece? (begun.any Op.commits) = none) :
    Account script there (.running (next (.ok ()))) (begun ++ [op]) sent := by
  obtain ⟨hbegins, hsends, hplays⟩ := h.begin
  rw [hpiece] at hsends
  refine ⟨?_, ?_, hplays, fun reason hreason => nomatch hreason⟩
  · rw [due_running]
    exact hbegins
  · rw [due_running]
    exact hsends

theorem Account.loud (h : Account script there (.running (.op op next)) begun sent)
    (hpiece : op.piece? (begun.any Op.commits) = some bytes) :
    Account script there (.sending op bytes next) (begun ++ [op]) sent := by
  obtain ⟨hbegins, hsends, hplays⟩ := h.begin
  rw [hpiece] at hsends
  refine ⟨?_, ?_, hplays, fun reason hreason => nomatch hreason⟩
  · rw [due_sending]
    exact hbegins
  · rw [due_sending]
    exact hsends

/-- A piece is sent to a receiver that is there. -/
theorem Account.send (h : Account script there (.sending op bytes next) begun sent)
    (hthere : there) : Account script there (.running (next (op.outcome (.ok ())))) begun
      (sent ++ [.chunk bytes]) := by
  have houtcome : op.outcome (.ok ()) = .ok () := by cases op <;> rfl
  have hsends := h.sends hthere
  rw [due_sending] at hsends
  rw [houtcome]
  refine ⟨?_, fun _ => ?_, h.plays, fun reason hreason => nomatch hreason⟩
  · rw [due_running, ← hsends]
    exact List.prefix_refl _
  · rw [due_running, ← hsends]
    exact List.append_nil _

/-- A piece is lost because the receiver is gone. What the program does then is its own matter. -/
theorem Account.lose (h : Account script there (.sending op bytes next) begun sent)
    (hgone : ¬there) (other : Script (Except ResourceError Unit)) :
    Account script there (.running other) begun sent := by
  have hbegins := h.begins
  rw [due_sending] at hbegins
  refine ⟨?_, fun hthere => absurd hthere hgone, fun hthere => absurd hthere hgone,
    fun reason hreason => nomatch hreason⟩
  rw [due_running]
  exact hbegins

/-- The program ends, and nothing has to be sent behind the chunks. -/
theorem Account.finish {result : Except ResourceError Unit}
    (h : Account script there (.running (.done result)) begun sent)
    (hend : endOf (begun.any Op.commits) result = []) :
    Account script there (.closing result) begun sent := by
  have hdue : due (.closing result) begun = due (.running (.done result)) begun :=
    congrArg ((chunksAfter false begun).map Item.chunk ++ ·) hend
  refine ⟨?_, ?_, h.plays, fun reason hreason => nomatch hreason⟩
  · rw [hdue]
    exact h.begins
  · rw [hdue]
    exact h.sends

/-- The program ends, and its failure has to be sent behind the chunks. -/
theorem Account.breakOff {reason : ResourceError}
    (h : Account script there (.running (.done (.error reason))) begun sent)
    (hend : endOf (begun.any Op.commits) (.error reason) = [failureItem reason]) :
    Account script there (.failing reason) begun sent := by
  have hdue : due (.failing reason) begun =
      due (.running (.done (.error reason))) begun ++ [failureItem reason] := by
    rw [due_running]
    exact congrArg ((chunksAfter false begun).map Item.chunk ++ ·) hend
  refine ⟨?_, fun hthere => ?_, h.plays, ?_⟩
  · rw [hdue]
    exact h.begins.trans (List.prefix_append _ _)
  · have hsends : sent ++ [] = due (.running (.done (.error reason))) begun := h.sends hthere
    rw [List.append_nil] at hsends
    rw [hdue, ← hsends]
    rfl
  · rintro _ ⟨⟩
    exact hend

/-- The failure is sent to a receiver that is there. -/
theorem Account.tell {reason : ResourceError}
    (h : Account script there (.failing reason) begun sent) (hthere : there) :
    Account script there (.closing (.error reason)) begun (sent ++ [failureItem reason]) := by
  have hsends : sent ++ [failureItem reason] = due (.closing (.error reason)) begun :=
    h.sends hthere
  refine ⟨⟨[], ?_⟩, fun _ => ?_, h.plays, fun reason hreason => nomatch hreason⟩
  · rw [List.append_nil, hsends]
  · rw [← hsends]
    exact List.append_nil _

/-- The failure is told to nobody. -/
theorem Account.tellNobody {reason : ResourceError}
    (h : Account script there (.failing reason) begun sent) (hgone : ¬there) :
    Account script there (.closing (.error reason)) begun sent :=
  ⟨h.begins, fun hthere => absurd hthere hgone, fun hthere => absurd hthere hgone,
    fun _ hreason => nomatch hreason⟩

/-- The response is closed. -/
theorem Account.close {result : Except ResourceError Unit}
    (h : Account script there (.closing result) begun sent) :
    Account script there (.closed result) begun sent :=
  ⟨h.begins, h.sends, h.plays, fun _ hreason => nomatch hreason⟩

/-- Once the receiver is gone the account need not be complete. -/
theorem Account.leave {writer : Writer} (h : Account script there writer begun sent) {gone : Prop}
    (hgone : ¬gone) : Account script gone writer begun sent :=
  ⟨h.begins, fun hthere => absurd hthere hgone, fun hthere => absurd hthere hgone, h.fails⟩

end Account

/-! ### The steps of a delivery -/

variable {d : Delivery} {script : Script (Except ResourceError Unit)}

/-- The head after the operations that have begun, with one more of them. -/
theorem headAfter_concat (head : Head) (ops : List Op) (op : Op) :
    headAfter head (ops ++ [op]) =
      if ops.any Op.commits then headAfter head ops else (headAfter head ops).edit op := by
  cases h : ops.any Op.commits with
  | true => rw [headAfter_append_of_commits [op] h, if_pos rfl]
  | false =>
    rw [headAfter_append [op] h, if_neg Bool.false_ne_true, headAfter]
    cases op.commits <;> rfl

namespace Faithful

theorem received_iff (h : Faithful script d) :
    d.link.sink.channel.received = true ↔ d.link.receiver ≠ .gone :=
  h.carries.received_iff

/-- The response is not closed as long as the writer has not closed it. -/
theorem carries_open (h : Faithful script d) (hwriter : d.writer.isClosed = false) :
    d.link.Carries d.sent false := by
  rw [← hwriter]
  exact h.carries

/-- A step of the writer keeps to the program if it leaves the head, the channel and the account as
they have to be, and notes no write that succeeds although the receiver is gone. -/
theorem wrote (h : Faithful script d) {sink : Streaming} {writer : Writer} {events : List Event}
    {begun : List Op} {sent : List Item} (hbegun : d.begun ++ events.filterMap Event.op? = begun)
    (hsent : d.sent ++ events.filterMap Event.item? = sent)
    (hhead : sink.head = headAfter {} begun)
    (hcommitted : sink.committed = (begun.any Op.commits || writer.succeeded))
    (hroom : sink.channel.capacity = d.link.sink.channel.capacity)
    (hcarries : Link.Carries sent writer.isClosed { d.link with sink })
    (haccount : Account script (d.link.receiver ≠ .gone) writer begun sent)
    (hstays : .left ∉ events)
    (hloses : d.link.receiver = .gone → ∀ f ∈ events, LostAfter .left f) :
    Faithful script (d.wrote sink writer events) := by
  have hb : (d.wrote sink writer events).begun = begun := by
    rw [← hbegun]
    exact List.filterMap_append
  have hs : (d.wrote sink writer events).sent = sent := by
    rw [← hsent]
    exact List.filterMap_append
  refine ⟨?_, ?_, ?_, ?_, ?_, ?_, ?_⟩
  · rw [hb]
    exact hhead
  · rw [hb]
    exact hcommitted
  · change 1 ≤ sink.channel.capacity
    rw [hroom]
    exact h.room
  · rw [hs]
    exact hcarries
  · rw [hb, hs]
    exact haccount
  · intro hleft
    exact h.leaves ((List.mem_append.mp hleft).resolve_right hstays)
  · refine List.pairwise_append.mpr ⟨h.loses, ?_, ?_⟩
    -- the writer notes no departure, so one in the log is older than what it notes now
    · rw [List.pairwise_iff_forall_sublist]
      intro e f hsub hleft
      exact absurd (hsub.subset List.mem_cons_self) (hleft ▸ hstays)
    · intro e he f hf hleft
      exact hloses (h.leaves (hleft ▸ he)) f hf rfl

/-- An operation begins. -/
theorem begin (h : Faithful script d) {op : Op}
    {next : Except IoError Unit → Script (Except ResourceError Unit)}
    (hwriter : d.writer = .running (.op op next)) : Faithful script (d.begin op next) := by
  have hcommitted : d.link.sink.committed = d.begun.any Op.commits := by
    rw [h.committed, hwriter]
    exact Bool.or_false _
  have hhead : (d.link.sink.prepare op).head = headAfter {} (d.begun ++ [op]) := by
    rw [Streaming.head_prepare, headAfter_concat, hcommitted, h.head]
  have hcommits : (d.link.sink.prepare op).committed =
      ((d.begun ++ [op]).any Op.commits || false) := by
    rw [Streaming.committed_prepare, hcommitted, List.any_append, List.any_cons, List.any_nil]
    simp only [Bool.or_false]
  have hroom := (Streaming.channel_prepare d.link.sink op).2.2
  have hcarries := (h.carries_open (by rw [hwriter]; rfl)).prepare op
  have haccount := h.account
  rw [hwriter] at haccount
  rw [Delivery.begin, hcommitted]
  cases hpiece : op.piece? (d.begun.any Op.commits) with
  | none =>
    refine h.wrote rfl (List.append_nil _) hhead hcommits hroom hcarries (haccount.quiet hpiece)
      (by simp) ?_
    -- an operation without a piece that succeeds is no write of bytes
    rintro - f hf - bytes outcome rfl hbytes
    obtain ⟨rfl, -⟩ : Op.write bytes = op ∧ outcome = .ok () := by simpa using hf
    rw [Op.piece?, if_neg hbytes] at hpiece
    exact absurd hpiece (by simp)
  | some bytes =>
    refine h.wrote rfl (List.append_nil _) hhead hcommits hroom hcarries (haccount.loud hpiece)
      (by simp) ?_
    rintro - f hf - bytes outcome rfl
    exact absurd hf (by simp)

/-- The writer is sending only behind the head. -/
theorem committed_of_pending (h : Faithful script d) (hthere : d.link.receiver ≠ .gone)
    {bytes : Bytes} {op : Op} {next : Except IoError Unit → Script (Except ResourceError Unit)}
    (hwriter : d.writer = .sending op bytes next) : d.link.sink.committed = true := by
  have hsends := h.account.sends hthere
  rw [hwriter, due_sending] at hsends
  rw [h.committed]
  cases hany : d.begun.any Op.commits with
  | true => rfl
  | false =>
    -- a piece before the head would be due to no operation
    rw [chunksAfter_of_not_commits hany] at hsends
    exact absurd hsends (by simp [Writer.pending])

/-- The piece of an operation is sent, or lost if the receiver is gone. -/
theorem send (h : Faithful script d) {op : Op} {bytes : Bytes}
    {next : Except IoError Unit → Script (Except ResourceError Unit)}
    (hwriter : d.writer = .sending op bytes next) : Faithful script (d.send op bytes next) := by
  have hcarries := h.carries_open (by rw [hwriter]; rfl)
  have hcommitted := h.committed
  have haccount := h.account
  rw [hwriter] at haccount hcommitted
  rw [Delivery.send]
  -- a writer that has waited for room may find the receiver gone
  by_cases hthere : d.link.receiver = .gone
  · have hgone : d.link.sink.channel.received = false := by
      rw [← Bool.not_eq_true, h.received_iff]
      exact not_not_intro hthere
    rw [Streaming.send_of_gone hgone]
    refine h.wrote (List.append_nil _) (List.append_nil _) h.head hcommitted rfl hcarries
      (haccount.lose (not_not_intro hthere) _) (by simp) ?_
    rintro - f hf - other outcome rfl -
    obtain ⟨rfl, rfl⟩ : Op.write other = op ∧ outcome = op.outcome (.error .receiverGone) := by
      simpa using hf
    rfl
  · have hreceived := h.received_iff.mpr hthere
    rw [(Streaming.send_of_received hreceived _).1]
    refine h.wrote (List.append_nil _) rfl ?_ ?_ ?_
      (hcarries.send (h.committed_of_pending hthere hwriter) hreceived _) (haccount.send hthere)
      (by simp) (fun hgone => absurd hgone hthere)
    · rw [Streaming.head_send, h.head]
    · rw [Streaming.committed_send, hcommitted]
      rfl
    · exact Streaming.capacity_send _ _

/-- The program ends. -/
theorem conclude (h : Faithful script d) {result : Except ResourceError Unit}
    (hwriter : d.writer = .running (.done result)) : Faithful script (d.conclude result) := by
  have hcarries := h.carries_open (by rw [hwriter]; rfl)
  have hcommitted : d.link.sink.committed = d.begun.any Op.commits := by
    rw [h.committed, hwriter]
    exact Bool.or_false _
  have haccount := h.account
  rw [hwriter] at haccount
  cases result with
  | ok =>
    refine h.wrote (List.append_nil _) (List.append_nil _) ?_ ?_
      (Streaming.channel_commit d.link.sink).2.2 hcarries.commit (haccount.finish rfl) (by simp)
      (by simp)
    · rw [Streaming.head_commit, h.head]
    · rw [Streaming.committed_commit]
      exact (Bool.or_true _).symm
  | error reason =>
    have hstill : d.link.sink.committed = (d.begun.any Op.commits || false) := by
      rw [hcommitted, Bool.or_false]
    rw [Delivery.conclude]
    split
    · next htold =>
      have hend : endOf (d.begun.any Op.commits) (.error reason) = [failureItem reason] := by
        rw [endOf, ← hcommitted, if_pos htold]
      exact h.wrote (List.append_nil _) (List.append_nil _) h.head hstill rfl hcarries
        (haccount.breakOff hend) (by simp) (by simp)
    · next hsilent =>
      have hend : endOf (d.begun.any Op.commits) (.error reason) = [] := by
        rw [endOf, ← hcommitted, if_neg hsilent]
      exact h.wrote (List.append_nil _) (List.append_nil _) h.head hstill rfl hcarries
        (haccount.finish hend) (by simp) (by simp)

/-- The failure of the program is told, or lost if the receiver is gone. -/
theorem fail (h : Faithful script d) {reason : ResourceError} (hwriter : d.writer = .failing reason) :
    Faithful script (d.fail reason) := by
  have hcarries := h.carries_open (by rw [hwriter]; rfl)
  have hcommitted := h.committed
  have haccount := h.account
  rw [hwriter] at haccount hcommitted
  rw [Delivery.fail]
  by_cases hthere : d.link.receiver = .gone
  · have hgone : d.link.sink.channel.received = false := by
      rw [← Bool.not_eq_true, h.received_iff]
      exact not_not_intro hthere
    rw [Streaming.send_of_gone hgone]
    exact h.wrote (List.append_nil _) (List.append_nil _) h.head hcommitted rfl hcarries
      (haccount.tellNobody (not_not_intro hthere)) (by simp) (by simp)
  · have hreceived := h.received_iff.mpr hthere
    -- a failure before the head is not told, so the head is committed
    have hopen : d.link.sink.committed = true := by
      have hend := h.account.fails reason hwriter
      rw [hcommitted]
      cases hany : d.begun.any Op.commits with
      | true => rfl
      | false =>
        rw [hany] at hend
        exact absurd hend (by simp [endOf])
    rw [(Streaming.send_of_received hreceived _).1]
    refine h.wrote (List.append_nil _) rfl ?_ ?_ ?_ (hcarries.send hopen hreceived _)
      (haccount.tell hthere) (by simp) (fun hgone => absurd hgone hthere)
    · rw [Streaming.head_send, h.head]
    · rw [Streaming.committed_send, hcommitted]
      rfl
    · exact Streaming.capacity_send _ _

/-- The response is closed. -/
theorem close (h : Faithful script d) {result : Except ResourceError Unit}
    (hwriter : d.writer = .closing result) :
    Faithful script { d with writer := .closed result } := by
  have hcommitted := h.committed
  have haccount := h.account
  rw [hwriter] at haccount hcommitted
  refine ⟨h.head, ?_, h.room, ?_, haccount.close, h.leaves, h.loses⟩
  · rw [hcommitted]
    cases result <;> rfl
  · exact (h.carries_open (by rw [hwriter]; rfl)).close

/-! ### The steps of the receiver -/

theorem take (h : Faithful script d) {link : Link}
    (ht : d.link.take? d.writer.isClosed = some link) : Faithful script { d with link } := by
  obtain ⟨-, hthere, hbefore, hhead, hcommitted, -, hcapacity⟩ := Link.take?_eq_some ht
  have hsame : (d.link.receiver ≠ .gone) = (link.receiver ≠ .gone) :=
    propext ⟨fun _ => hthere, fun _ => hbefore⟩
  refine ⟨hhead.trans h.head, hcommitted.trans h.committed, ?_, h.carries.take ht, ?_, ?_, h.loses⟩
  · change 1 ≤ link.sink.channel.capacity
    rw [hcapacity]
    exact h.room
  · rw [← hsame]
    exact h.account
  · intro hleft
    exact absurd (h.leaves hleft) hbefore

theorem leave (h : Faithful script d)
    (hthere : d.link.receiver = .waiting ∨ d.link.receiver = .reading) :
    Faithful script { d with
      link := { d.link with sink := d.link.sink.dropReceiver, receiver := .gone }
      log := d.log ++ [.left] } := by
  have hbegun : (d.log ++ [Event.left]).filterMap Event.op? = d.begun := by
    rw [List.filterMap_append]
    exact List.append_nil _
  have hsent : (d.log ++ [Event.left]).filterMap Event.item? = d.sent := by
    rw [List.filterMap_append]
    exact List.append_nil _
  refine ⟨?_, ?_, h.room, ?_, ?_, fun _ => rfl, ?_⟩
  · rw [begun, hbegun]
    exact h.head
  · rw [begun, hbegun]
    exact h.committed
  · rw [sent, hsent]
    exact h.carries.leave hthere
  · rw [begun, hbegun, sent, hsent]
    exact h.account.leave (not_not_intro rfl)
  · refine List.pairwise_append.mpr ⟨h.loses, List.pairwise_singleton _ _, ?_⟩
    rintro e - f hf - bytes outcome rfl
    exact absurd hf (by simp)

/-- As long as the program has not told its failure, only chunks were sent. -/
theorem sent_chunks (h : Faithful script d) (hthere : d.link.receiver ≠ .gone)
    (hwriter : (∃ op bytes next, d.writer = .sending op bytes next) ∨
      ∃ reason, d.writer = .failing reason) :
    d.sent <+: (chunksAfter false d.begun).map .chunk := by
  have hsends := h.account.sends hthere
  rcases hwriter with ⟨op, bytes, next, hwriter⟩ | ⟨reason, hwriter⟩
  · rw [hwriter, due_sending] at hsends
    exact ⟨_, hsends⟩
  · -- the failure is due, but it is the one thing that was not sent
    have hend := h.account.fails reason hwriter
    have hdue : due (.failing reason) d.begun =
        (chunksAfter false d.begun).map .chunk ++ [failureItem reason] :=
      congrArg ((chunksAfter false d.begun).map Item.chunk ++ ·) hend
    rw [hwriter, hdue] at hsends
    exact List.append_cancel_right hsends ▸ List.prefix_refl _

/-! ### Runs -/

theorem start (capacity : Nat) (script : Script (Except ResourceError Unit)) :
    Faithful script (start capacity script) := by
  refine ⟨rfl, rfl, Nat.le_max_right _ _, .create capacity, ?_, by simp [Delivery.start],
    List.Pairwise.nil⟩
  exact ⟨List.prefix_refl _, fun _ => rfl, fun _ => rfl, fun reason hreason => nomatch hreason⟩

/-- **Every move keeps to the program.** -/
theorem move (h : Faithful script d) {m : Move} {e : Delivery} (hm : d.move? m = some e) :
    Faithful script e := by
  cases m with
  | write =>
    change d.write? = some e at hm
    rw [write?] at hm
    split at hm
    · next hwriter => cases hm; exact h.begin hwriter
    · next hwriter => cases hm; exact h.conclude hwriter
    · next hwriter =>
      split at hm
      · cases hm
      · cases hm; exact h.send hwriter
    · next hwriter =>
      split at hm
      · cases hm
      · cases hm; exact h.fail hwriter
    · next hwriter => cases hm; exact h.close hwriter
    · cases hm
  | take =>
    obtain ⟨link, ht, rfl⟩ := Option.map_eq_some_iff.mp hm
    exact h.take ht
  | leave =>
    change d.leave? = some e at hm
    rw [leave?] at hm
    split at hm
    · next hwaiting => cases hm; exact h.leave (.inl hwaiting)
    · next hreading => cases hm; exact h.leave (.inr hreading)
    · cases hm
    · cases hm

/-- **Every run keeps to the program.** -/
theorem run (h : Faithful script d) {moves : List Move} {e : Delivery}
    (hr : d.run? moves = some e) : Faithful script e := by
  induction moves generalizing d with
  | nil =>
    cases hr
    exact h
  | cons m moves ih =>
    obtain ⟨next, hm, hrest⟩ := Option.bind_eq_some_iff.mp hr
    exact ih (h.move hm) hrest

end Faithful

end Delivery

end WebMount
