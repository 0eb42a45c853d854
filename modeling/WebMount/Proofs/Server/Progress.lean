import WebMount.Proofs.Server.Delivery

/-!
# Deliveries come to an end

Every move of a delivery leaves less to be done (`Delivery.weight_lt_of_move?`), so no schedule is
endless; and where neither the writer nor the receiver can move, the response is closed and the
receiver is done with it or gone (`Delivery.Faithful.stuck`). Therefore a receiver that stays can
always be served to the end (`Delivery.Faithful.exists_finished`).
-/

namespace WebMount

open WebMount.Response

/-- How many steps the writer still makes at most, the items that it sends counted as steps as
well. -/
def Writer.weight : Writer → Nat
  | running script => 3 * script.size + 4
  | sending _ _ next => 3 * max (next (.ok ())).size (next (.error .receiverGone)).size + 6
  | failing _ => 3
  | closing _ => 1
  | closed _ => 0

namespace Delivery

variable {d : Delivery} {script : Script (Except ResourceError Unit)}

/-- How many moves are still made at most. -/
def weight (d : Delivery) : Nat :=
  d.writer.weight + d.link.weight

theorem weight_wrote (d : Delivery) (sink : Streaming) (writer : Writer) (events : List Event)
    {sent : List Item} (hitems : sink.channel.items = d.link.sink.channel.items ++ sent) :
    (d.wrote sink writer events).weight + d.writer.weight =
      d.weight + writer.weight + sent.length := by
  simp only [weight, wrote, Link.weight, hitems, List.length_append]
  omega

private theorem items_of_send {s t : Streaming} {item : Item} (h : s.send item = (.ok (), t)) :
    t.channel.items = s.channel.items ++ [item] := by
  cases hreceived : s.channel.received with
  | true =>
    have hsent := (Streaming.send_of_received hreceived item).2
    rwa [h] at hsent
  | false =>
    rw [Streaming.send_of_gone hreceived] at h
    exact absurd (Prod.mk.inj h).1 (by simp)

private theorem gone_of_send {s t : Streaming} {item : Item} {e : IoError}
    (h : s.send item = (.error e, t)) : e = .receiverGone ∧ t = s := by
  cases hreceived : s.channel.received with
  | true =>
    rw [(Streaming.send_of_received hreceived item).1] at h
    exact absurd (Prod.mk.inj h).1 (by simp)
  | false =>
    rw [Streaming.send_of_gone hreceived] at h
    obtain ⟨he, rfl⟩ := Prod.mk.inj h
    exact ⟨(Except.error.inj he).symm, rfl⟩

/-- An operation whose piece is still to be sent has more before it than one that is through: the
piece counts as a step of the receiver as well. -/
theorem weight_begin_lt {op : Op} {next : Except IoError Unit → Script (Except ResourceError Unit)}
    (hwriter : d.writer = .running (.op op next)) : (d.begin op next).weight < d.weight := by
  have hprepare := (Streaming.channel_prepare d.link.sink op).2.1
  rw [← List.append_nil d.link.sink.channel.items] at hprepare
  rw [begin]
  split
  · have hw := d.weight_wrote (d.link.sink.prepare op) (.running (next (.ok ())))
      [.began op, .returned op (.ok ())] hprepare
    simp only [hwriter, Writer.weight, Script.size, List.length_nil] at hw
    omega
  · next bytes _ =>
    have hw := d.weight_wrote (d.link.sink.prepare op) (.sending op bytes next) [.began op]
      hprepare
    simp only [hwriter, Writer.weight, Script.size, List.length_nil] at hw
    omega

theorem weight_conclude_lt {result : Except ResourceError Unit}
    (hwriter : d.writer = .running (.done result)) : (d.conclude result).weight < d.weight := by
  cases result with
  | ok =>
    have hcommit := (Streaming.channel_commit d.link.sink).2.1
    rw [← List.append_nil d.link.sink.channel.items] at hcommit
    have hw := d.weight_wrote d.link.sink.commit (.closing (.ok ())) [] hcommit
    simp only [hwriter, Writer.weight, Script.size, List.length_nil] at hw
    change (d.wrote d.link.sink.commit (.closing (.ok ())) []).weight < d.weight
    omega
  | error reason =>
    have hsame := (List.append_nil d.link.sink.channel.items).symm
    have hfailing := d.weight_wrote d.link.sink (.failing reason) [] hsame
    have hclosing := d.weight_wrote d.link.sink (.closing (.error reason)) [] hsame
    simp only [hwriter, Writer.weight, Script.size, List.length_nil] at hfailing hclosing
    rw [conclude]
    split <;> omega

/-- A program may go on in two ways behind a piece, and the weight covers the longer one. -/
theorem weight_send_lt {op : Op} {bytes : Bytes}
    {next : Except IoError Unit → Script (Except ResourceError Unit)}
    (hwriter : d.writer = .sending op bytes next) : (d.send op bytes next).weight < d.weight := by
  rw [send]
  split
  · next sink hsend =>
    have hw := d.weight_wrote sink (.running (next (op.outcome (.ok ()))))
      [.sent (.chunk bytes), .returned op (op.outcome (.ok ()))] (items_of_send hsend)
    have houtcome : op.outcome (.ok ()) = .ok () := by cases op <;> rfl
    simp only [hwriter, Writer.weight, houtcome, List.length_singleton] at hw ⊢
    omega
  · next e sink hsend =>
    obtain ⟨rfl, rfl⟩ := gone_of_send hsend
    have hw := d.weight_wrote d.link.sink (.running (next (op.outcome (.error .receiverGone))))
      [.returned op (op.outcome (.error .receiverGone))] (List.append_nil _).symm
    -- an operation may pass over the failure, as one does that writes the message of an error
    have houtcome : op.outcome (.error .receiverGone) = .ok () ∨
        op.outcome (.error .receiverGone) = .error .receiverGone := by
      cases op <;> simp [Op.outcome]
    simp only [hwriter, Writer.weight, List.length_nil] at hw
    rcases houtcome with houtcome | houtcome <;> rw [houtcome] at hw ⊢ <;> omega

theorem weight_fail_lt {reason : ResourceError} (hwriter : d.writer = .failing reason) :
    (d.fail reason).weight < d.weight := by
  rw [fail]
  split
  · next sink hsend =>
    have hw := d.weight_wrote sink (.closing (.error reason)) [.sent (failureItem reason)]
      (items_of_send hsend)
    simp only [hwriter, Writer.weight, List.length_singleton] at hw
    omega
  · next e sink hsend =>
    obtain ⟨-, rfl⟩ := gone_of_send hsend
    have hw := d.weight_wrote d.link.sink (.closing (.error reason)) [] (List.append_nil _).symm
    simp only [hwriter, Writer.weight, List.length_nil] at hw
    omega

/-- Every step of the writer leaves less to be done. -/
theorem weight_lt_of_write? {e : Delivery} (h : d.write? = some e) : e.weight < d.weight := by
  rw [write?] at h
  split at h
  · next hwriter =>
    cases h
    exact weight_begin_lt hwriter
  · next hwriter =>
    cases h
    exact weight_conclude_lt hwriter
  · next hwriter =>
    split at h
    · cases h
    · cases h
      exact weight_send_lt hwriter
  · next hwriter =>
    split at h
    · cases h
    · cases h
      exact weight_fail_lt hwriter
  · next result hwriter =>
    cases h
    simp only [weight, hwriter, Writer.weight]
    omega
  · cases h

/-- **Every move leaves less to be done.** -/
theorem weight_lt_of_move? {m : Move} {e : Delivery} (h : d.move? m = some e) :
    e.weight < d.weight := by
  cases m with
  | write => exact weight_lt_of_write? h
  | take =>
    obtain ⟨link, ht, rfl⟩ := Option.map_eq_some_iff.mp h
    have hless := (Link.take?_eq_some ht).1
    simp only [weight]
    omega
  | leave =>
    -- what is in flight is lost, and the receiver is done
    change d.leave? = some e at h
    rw [leave?] at h
    split at h
    · next hwaiting =>
      cases h
      simp only [weight, Link.weight, hwaiting, Streaming.dropReceiver, List.length_nil]
      omega
    · next hreading =>
      cases h
      simp only [weight, Link.weight, hreading, Streaming.dropReceiver, List.length_nil]
      omega
    · cases h
    · cases h

/-- A run is no longer than what there was to be done. -/
theorem length_add_weight_le {moves : List Move} {e : Delivery} (h : d.run? moves = some e) :
    moves.length + e.weight ≤ d.weight := by
  induction moves generalizing d with
  | nil =>
    cases h
    exact Nat.le_of_eq (Nat.zero_add _)
  | cons m moves ih =>
    obtain ⟨next, hm, hrest⟩ := Option.bind_eq_some_iff.mp h
    have hless := weight_lt_of_move? hm
    have hle := ih hrest
    rw [List.length_cons]
    omega

/-- A writer that waits for room is not the last one to move: the receiver has something to take. -/
theorem Faithful.not_full (h : Faithful script d) (ht : d.link.take? false = none)
    (hopen : d.writer.isClosed = false)
    (hwriter : (∃ op bytes next, d.writer = .sending op bytes next) ∨
      ∃ reason, d.writer = .failing reason) : d.link.sink.channel.isFull = false := by
  cases hfull : d.link.sink.channel.isFull with
  | false => rfl
  | true =>
    rw [Channel.isFull, Bool.and_eq_true, Bool.not_eq_true', Channel.hasRoom,
      decide_eq_false_iff_not] at hfull
    obtain ⟨hreceived, hlength⟩ := hfull
    have hthere := h.received_iff.mp hreceived
    -- there is room for one item at least, so a full channel holds one
    have hitems : d.link.sink.channel.items ≠ [] := by
      intro hnil
      rw [hnil] at hlength
      exact hlength (Nat.lt_of_lt_of_le Nat.zero_lt_one h.room)
    have hcarries := h.carries_open hopen
    have hfinished := (hcarries.idle ht (.inr hitems)).resolve_right hthere
    rcases hcarries.finished hfinished with ⟨-, -, hclosed, -⟩ | ⟨taken, -, -, hclosed, -⟩ |
      ⟨taken, cause, rest, -, -, hsent⟩
    · exact absurd hclosed Bool.false_ne_true
    · exact absurd hclosed Bool.false_ne_true
    · -- a receiver that has the failure would have it from a writer that has not told it
      obtain ⟨more, hmore⟩ := h.sent_chunks hthere hwriter
      rw [hsent, List.append_assoc, List.cons_append] at hmore
      exact absurd hmore.symm chunks_ne_failure

/-- **Where nobody can move, all is done.** -/
theorem Faithful.stuck (h : Faithful script d) (hwrite : d.write? = none) (htake : d.take? = none) :
    d.writer.isClosed = true ∧ (d.link.receiver = .finished ∨ d.link.receiver = .gone) := by
  have ht : d.link.take? d.writer.isClosed = none := Option.map_eq_none_iff.mp htake
  rw [write?] at hwrite
  split at hwrite
  · cases hwrite
  · cases hwrite
  · next op bytes next hwriter =>
    have hopen : d.writer.isClosed = false := by rw [hwriter]; rfl
    rw [hopen] at ht
    rw [h.not_full ht hopen (.inl ⟨op, bytes, next, hwriter⟩)] at hwrite
    cases hwrite
  · next reason hwriter =>
    have hopen : d.writer.isClosed = false := by rw [hwriter]; rfl
    rw [hopen] at ht
    rw [h.not_full ht hopen (.inr ⟨reason, hwriter⟩)] at hwrite
    cases hwrite
  · cases hwrite
  · next result hwriter =>
    have hclosed : d.writer.isClosed = true := by rw [hwriter]; rfl
    exact ⟨hclosed, h.carries.idle ht (.inl hclosed)⟩

/-! ### A receiver that stays is served -/

/-- The writer does not send the receiver away. -/
theorem receiver_of_write? {e : Delivery} (h : d.write? = some e) :
    e.link.receiver = d.link.receiver := by
  rw [write?] at h
  split at h
  · cases h
    rw [begin]
    split <;> rfl
  · next result _ =>
    cases h
    cases result with
    | ok => rfl
    | error reason =>
      rw [conclude]
      split <;> rfl
  · split at h
    · cases h
    · cases h
      rw [send]
      split <;> rfl
  · split at h
    · cases h
    · cases h
      rw [fail]
      split <;> rfl
  · cases h
    rfl
  · cases h

/-- **A receiver that stays is served to the end**: whatever was done so far, moves can be made
after which the receiver is done. -/
theorem Faithful.exists_finished (h : Faithful script d) (hthere : d.link.receiver ≠ .gone) :
    ∃ (moves : List Move) (e : Delivery),
      d.run? moves = some e ∧ e.link.receiver = .finished := by
  -- every move leaves less to be done, and the receiver stays
  induction hn : d.weight using Nat.strongRecOn generalizing d with
  | ind n ih =>
    subst hn
    have hnext : ∀ {m : Move} {next : Delivery}, d.move? m = some next →
        next.link.receiver ≠ .gone → ∃ (moves : List Move) (e : Delivery),
          d.run? moves = some e ∧ e.link.receiver = .finished := by
      intro m next hm hstays
      obtain ⟨moves, e, hrun, hfinished⟩ :=
        ih next.weight (weight_lt_of_move? hm) (h.move hm) hstays rfl
      refine ⟨m :: moves, e, ?_, hfinished⟩
      rw [run?, hm]
      exact hrun
    cases hwrite : d.write? with
    | some next => exact hnext (m := .write) hwrite (receiver_of_write? hwrite ▸ hthere)
    | none =>
      cases htake : d.take? with
      | some next =>
        obtain ⟨link, ht, rfl⟩ := Option.map_eq_some_iff.mp htake
        exact hnext (m := .take) htake (Link.take?_eq_some ht).2.1
      | none => exact ⟨[], d, rfl, (h.stuck hwrite htake).2.resolve_right hthere⟩

end Delivery

end WebMount
