import WebMount.Proofs.Response.Headers
import WebMount.Response.Buffered
import WebMount.Response.Command
import WebMount.Response.Script
import WebMount.Response.Transcript

/-!
# Buffered responses hold their transcript

No operation on a buffered response fails, so a program performs on it the operations that it
performs wherever nothing fails (`Script.run_buffered`). After operations the response holds
what they amount to: the head up to the commitment (`head_foldl`), and the pieces of the body behind
what there was (`body_foldl`).
-/

namespace WebMount.Response

/-! ### No operation fails -/

/-- Operations on a buffered response are all performed. -/
theorem run_buffered (b : Buffered) (ops : List Op) :
    run b ops = (.ok (), ops.foldl Buffered.step b) := by
  induction ops generalizing b with
  | nil => rfl
  | cons op ops ih => exact ih (b.step op)

/-- A command to a buffered response performs its operations. -/
theorem perform_buffered {c : Command} {ops : List Op} (h : c.ops = .ok ops) (b : Buffered) :
    perform b c = (.ok (), ops.foldl Buffered.step b) := by
  simp only [perform, h, run_buffered]

/-- A program on a buffered response. -/
theorem Script.run_buffered {ρ : Type} (p : Script ρ) (b : Buffered) :
    p.run b = (p.play.2, p.play.1.foldl Buffered.step b) := by
  induction p generalizing b with
  | done result => rfl
  | op o next ih => exact ih (.ok ()) (b.step o)

namespace Buffered

/-! ### One operation -/

theorem head_step (b : Buffered) (op : Op) :
    (b.step op).head = if b.committed then b.head else b.head.edit op := by
  cases op <;> cases hc : b.committed <;> simp [step, hc, Head.edit]

theorem committed_step (b : Buffered) (op : Op) :
    (b.step op).committed = (b.committed || op.commits) := by
  cases op <;> cases hc : b.committed <;> simp [step, hc, Op.commits]

/-- An operation adds its piece to the body. An error replaces the body, but only before the
commitment, when there is none. -/
theorem body_step {b : Buffered} (h : b.committed = false → b.body = []) (op : Op) :
    (b.step op).body = b.body ++ (op.piece? b.committed).toList.flatten := by
  cases op with
  | status code => rw [body_step_status]; exact (List.append_nil _).symm
  | header name value => rw [body_step_header]; exact (List.append_nil _).symm
  | flush => rw [body_step_flush]; exact (List.append_nil _).symm
  | write bytes =>
    rw [body_step_write, Op.piece?]
    split
    · next hbytes => rw [hbytes]; rfl
    · simp
  | error code message =>
    rw [body_step_error]
    cases hc : b.committed with
    | true => simp [Op.piece?]
    | false =>
      rw [h hc]
      cases message with
      | none => rfl
      | some text => simp [Op.piece?, messageBytes]

/-- Before the commitment the body stays empty. -/
theorem body_step_eq_nil {b : Buffered} (h : b.committed = false → b.body = []) (op : Op) :
    (b.step op).committed = false → (b.step op).body = [] := by
  intro hc
  rw [committed_step, Bool.or_eq_false_iff] at hc
  obtain ⟨hb, hop⟩ := hc
  rw [body_step h, h hb, Op.piece?_of_not_commits hop]
  rfl

/-! ### Many operations -/

theorem head_foldl (b : Buffered) (ops : List Op) :
    (ops.foldl step b).head = if b.committed then b.head else headAfter b.head ops := by
  induction ops generalizing b with
  | nil => simp [headAfter]
  | cons op ops ih =>
    rw [List.foldl_cons, ih, head_step, committed_step, headAfter]
    cases b.committed <;> cases op.commits <;> simp

theorem committed_foldl (b : Buffered) (ops : List Op) :
    (ops.foldl step b).committed = (b.committed || ops.any Op.commits) := by
  induction ops generalizing b with
  | nil => rw [List.any_nil, Bool.or_false]; rfl
  | cons op ops ih => rw [List.foldl_cons, ih, committed_step, List.any_cons, Bool.or_assoc]

theorem body_foldl {b : Buffered} (h : b.committed = false → b.body = []) (ops : List Op) :
    (ops.foldl step b).body = b.body ++ (chunksAfter b.committed ops).flatten := by
  induction ops generalizing b with
  | nil => simp [chunksAfter]
  | cons op ops ih =>
    rw [List.foldl_cons, ih (body_step_eq_nil h op), body_step h, committed_step, chunksAfter,
      List.flatten_append, List.append_assoc]

/-! ### Header fields -/

/-- The operations that set fields set them, as long as the head is not committed. -/
theorem foldl_header {b : Buffered} (h : b.committed = false) (fields : List (String × String)) :
    (fields.map fun f => Op.header f.1 f.2).foldl step b =
      { b with head := ⟨b.head.status, b.head.headers.setAll fields⟩ } := by
  induction fields generalizing b with
  | nil => rfl
  | cons f fields ih =>
    have hstep : b.step (.header f.1 f.2) =
        { b with head := ⟨b.head.status, b.head.headers.set f.1 f.2⟩ } := by
      rw [step, h]
      rfl
    rw [List.map_cons, List.foldl_cons, hstep]
    exact ih h

end Buffered

end WebMount.Response
