import WebMount.Response.Reception
import WebMount.Response.Transcript

/-!
# Steps of a streamed response

What the two parts of an operation on a streamed response do: preparing changes the head as long as
it is not committed and never moves an item; sending puts an item on its way, or fails because the
receiver is gone. An operation whose receiver is there always succeeds (`step_of_received`).
-/

namespace WebMount.Response.Streaming

/-! ### Preparing -/

theorem head_commit (s : Streaming) : s.commit.head = s.head := by
  rw [commit]
  split <;> rfl

theorem committed_commit (s : Streaming) : s.commit.committed = true := by
  rw [commit]
  split
  · next h => exact h
  · rfl

theorem head_prepare (s : Streaming) (op : Op) :
    (s.prepare op).head = if s.committed then s.head else s.head.edit op := by
  cases op with
  | status code => rw [prepare]; split <;> rfl
  | header name value => rw [prepare]; split <;> rfl
  | error code message =>
    rw [prepare]
    split
    · rfl
    · rw [head_commit]
      rfl
  | write bytes => rw [prepare, head_commit]; split <;> rfl
  | flush => rw [prepare, head_commit]; split <;> rfl

theorem committed_prepare (s : Streaming) (op : Op) :
    (s.prepare op).committed = (s.committed || op.commits) := by
  cases op with
  | status code => rw [prepare, Op.commits, Bool.or_false]; split <;> rfl
  | header name value => rw [prepare, Op.commits, Bool.or_false]; split <;> rfl
  | error code message =>
    rw [prepare, Op.commits, Bool.or_true]
    split
    · next h => exact h
    · exact committed_commit _
  | write bytes => rw [prepare, Op.commits, Bool.or_true]; exact committed_commit s
  | flush => rw [prepare, Op.commits, Bool.or_true]; exact committed_commit s

/-- The channel apart from the head. -/
theorem channel_commit (s : Streaming) : s.commit.channel.received = s.channel.received ∧
    s.commit.channel.items = s.channel.items ∧ s.commit.channel.capacity = s.channel.capacity := by
  rw [commit]
  split <;> exact ⟨rfl, rfl, rfl⟩

theorem channel_prepare (s : Streaming) (op : Op) :
    (s.prepare op).channel.received = s.channel.received ∧
      (s.prepare op).channel.items = s.channel.items ∧
      (s.prepare op).channel.capacity = s.channel.capacity := by
  cases op with
  | status code => rw [prepare]; split <;> exact ⟨rfl, rfl, rfl⟩
  | header name value => rw [prepare]; split <;> exact ⟨rfl, rfl, rfl⟩
  | error code message =>
    rw [prepare]
    split
    · exact ⟨rfl, rfl, rfl⟩
    · exact channel_commit _
  | write bytes => exact channel_commit s
  | flush => exact channel_commit s

/-! ### Sending -/

theorem send_of_received {s : Streaming} (h : s.channel.received = true) (item : Item) :
    s.send item = (.ok (), (s.send item).2) ∧
      (s.send item).2.channel.items = s.channel.items ++ [item] := by
  rw [send, if_pos h]
  exact ⟨rfl, rfl⟩

theorem send_of_gone {s : Streaming} (h : s.channel.received = false) (item : Item) :
    s.send item = (.error .receiverGone, s) := by
  rw [send, h]
  rfl

theorem head_send (s : Streaming) (item : Item) : (s.send item).2.head = s.head := by
  rw [send]
  split <;> rfl

theorem committed_send (s : Streaming) (item : Item) :
    (s.send item).2.committed = s.committed := by
  rw [send]
  split <;> rfl

theorem capacity_send (s : Streaming) (item : Item) :
    (s.send item).2.channel.capacity = s.channel.capacity := by
  rw [send]
  split <;> rfl

/-- An operation that has a piece of the body commits the head. -/
theorem committed_prepare_of_piece {s : Streaming} {op : Op} {bytes : Bytes}
    (h : op.piece? s.committed = some bytes) : (s.prepare op).committed = true := by
  rw [committed_prepare]
  cases hop : op.commits with
  | true => exact Bool.or_true _
  | false =>
    rw [Op.piece?_of_not_commits hop] at h
    exact absurd h (by simp)

/-! ### One operation -/

/-- An operation whose piece, if it has one, is sent once it is prepared. -/
theorem sink_step (s : Streaming) (op : Op) : (s.step op).2 =
    match op.piece? s.committed with
    | none => s.prepare op
    | some bytes => ((s.prepare op).send (.chunk bytes)).2 := by
  rw [step]
  cases op.piece? s.committed <;> rfl

theorem head_step (s : Streaming) (op : Op) :
    (s.step op).2.head = if s.committed then s.head else s.head.edit op := by
  rw [sink_step, ← head_prepare]
  cases op.piece? s.committed with
  | none => rfl
  | some bytes => exact head_send _ _

theorem committed_step (s : Streaming) (op : Op) :
    (s.step op).2.committed = (s.committed || op.commits) := by
  rw [sink_step, ← committed_prepare]
  cases op.piece? s.committed with
  | none => rfl
  | some bytes => exact committed_send _ _

/-- An operation succeeds as long as the receiver is there. -/
theorem step_of_received {s : Streaming} (h : s.channel.received = true) (op : Op) :
    s.step op = (.ok (), (s.step op).2) := by
  rw [step]
  cases op.piece? s.committed with
  | none => rfl
  | some bytes =>
    have hreceived : (s.prepare op).channel.received = true := by
      rw [(channel_prepare s op).1, h]
    dsimp only
    rw [(send_of_received hreceived _).1]
    cases op <;> rfl

end WebMount.Response.Streaming
