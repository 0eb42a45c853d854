import WebMount.Response.Streaming

/-!
# What operations amount to

The response that a list of operations stands for, told from the operations alone: the head as the
first operation that commits it leaves it, and the pieces that the operations add to the body. Every
kind of sink is to agree with this.
-/

namespace WebMount.Response

/-- Whether an operation commits the head. -/
def Op.commits : Op → Bool
  | .status _ => false
  | .header _ _ => false
  | .error _ _ => true
  | .write _ => true
  | .flush => true

/-- A head that is not committed, as an operation leaves it. -/
def Head.edit (head : Head) : Op → Head
  | .status code => { head with status := code }
  | .header name value => { head with headers := head.headers.set name value }
  | .error code message => head.ofError code message
  | .write _ => head
  | .flush => head

/-- A head that is not committed, as operations leave it: those behind the first one that commits
it do nothing to it. -/
def headAfter (head : Head) : List Op → Head
  | [] => head
  | op :: ops => if op.commits then head.edit op else headAfter (head.edit op) ops

/-- The pieces that operations add to the body, given whether the head was committed before. -/
def chunksAfter (committed : Bool) : List Op → List Bytes
  | [] => []
  | op :: ops => (op.piece? committed).toList ++ chunksAfter (committed || op.commits) ops

/-- The bytes that an operation writes to a body whose head is committed. -/
def Op.bytes : Op → Bytes
  | .write bytes => bytes
  | _ => []

/-- Behind the head, the body grows by the bytes that are written and by nothing else. -/
theorem flatten_chunksAfter_true (ops : List Op) :
    (chunksAfter true ops).flatten = ops.flatMap Op.bytes := by
  induction ops with
  | nil => rfl
  | cons op ops ih =>
    have hpiece : (op.piece? true).toList.flatten = op.bytes := by
      cases op with
      | write bytes =>
        rw [Op.piece?]
        split
        · next hbytes => rw [hbytes]; rfl
        · exact List.append_nil bytes
      | status code => rfl
      | header name value => rfl
      | error code message => rfl
      | flush => rfl
    rw [chunksAfter, List.flatten_append, hpiece, Bool.true_or, ih, List.flatMap_cons]

/-- A head that no operation commits is as all of them leave it. -/
theorem headAfter_append {head : Head} {before : List Op} (after : List Op)
    (h : before.any Op.commits = false) :
    headAfter head (before ++ after) = headAfter (headAfter head before) after := by
  induction before generalizing head with
  | nil => rfl
  | cons op before ih =>
    rw [List.any_cons, Bool.or_eq_false_iff] at h
    obtain ⟨hop, hbefore⟩ := h
    have hkeep : ∀ ops, headAfter head (op :: ops) = headAfter (head.edit op) ops := by
      intro ops
      rw [headAfter, hop]
      rfl
    rw [List.cons_append, hkeep, hkeep, ih hbefore]

/-- **A committed head does not change.** -/
theorem headAfter_append_of_commits {head : Head} {before : List Op} (after : List Op)
    (h : before.any Op.commits = true) :
    headAfter head (before ++ after) = headAfter head before := by
  induction before generalizing head with
  | nil => exact absurd h (by simp)
  | cons op before ih =>
    rw [List.cons_append, headAfter, headAfter]
    cases hop : op.commits with
    | true => rfl
    | false =>
      rw [List.any_cons, hop, Bool.false_or] at h
      exact ih h

/-- **The body grows by the pieces of later operations.** -/
theorem chunksAfter_append (committed : Bool) (before after : List Op) :
    chunksAfter committed (before ++ after) =
      chunksAfter committed before ++ chunksAfter (committed || before.any Op.commits) after := by
  induction before generalizing committed with
  | nil => rw [List.any_nil, Bool.or_false]; rfl
  | cons op before ih =>
    rw [List.cons_append, chunksAfter, chunksAfter, ih, List.append_assoc, List.any_cons,
      Bool.or_assoc]

/-- An operation that adds to the body commits the head. -/
theorem Op.piece?_of_not_commits {op : Op} (h : op.commits = false) (committed : Bool) :
    op.piece? committed = none := by
  cases op with
  | status code => rfl
  | header name value => rfl
  | error code message => exact absurd h (by simp [commits])
  | write bytes => exact absurd h (by simp [commits])
  | flush => rfl

/-- The body is empty before the head is committed. -/
theorem chunksAfter_of_not_commits {ops : List Op} (h : ops.any Op.commits = false) :
    chunksAfter false ops = [] := by
  induction ops with
  | nil => rfl
  | cons op ops ih =>
    rw [List.any_cons, Bool.or_eq_false_iff] at h
    obtain ⟨hop, hops⟩ := h
    rw [chunksAfter, Op.piece?_of_not_commits hop, hop, Bool.or_self, ih hops]
    rfl

end WebMount.Response
