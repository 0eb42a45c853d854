import WebMount.Mount.Shared

/-!
# Operations on a mount, one after the other

One operation on a mount is told by the filter path that is fixed before it (`step_of_fixed`,
`step_of_open`). In a history of operations the first one that needs the filter path fixes it
(`settled?`), for all that follow: `perform_snd` is the mount that a history leaves, and
`answer_of_perform` the answer to each operation in it.
-/

namespace WebMount.Mount

/-! ### One operation -/

/-- Once the filter path is fixed, an operation changes nothing. -/
theorem step_of_fixed {m : Mount} {path : String} (h : m.fixed = some path) (files : Storage)
    (op : Operation) : m.step files op = (op.answerAt m.contextPath path, m) := by
  have hpath : m.filterPath files = path := by rw [filterPath, h, Option.getD_some]
  have hresolve : m.resolve files = m := by
    rw [resolve, hpath, ← h]
  cases op with
  | fix late => rw [step, fix, h]; rfl
  | contextPath => rfl
  | isResolved => rw [step, h]; rfl
  | filterPath | redirect | relative | url => rw [step, hresolve, hpath]; rfl

/-- Where no filter path is fixed, an operation fixes the one that it puts in, if it needs one. -/
theorem step_of_open {m : Mount} (h : m.fixed = none) (files : Storage) (op : Operation) :
    m.step files op =
      (op.firstAnswer m.contextPath (op.ownPath files m.source),
        if op.resolves then { m with fixed := some (op.ownPath files m.source) } else m) := by
  have hpath : m.filterPath files = sourcePath files m.source := by
    rw [filterPath, h, Option.getD_none]
  cases op with
  | fix path => rw [step, fix, h]; rfl
  | contextPath => rfl
  | isResolved => rw [step, h]; rfl
  | filterPath | redirect | relative | url => rw [step, resolve, hpath]; rfl

/-! ### A history of operations -/

/-- The filter path that a history fixes: the one that the first operation that needs it puts in. -/
def settled? (source : MountSource) (history : List (Storage × Operation)) : Option String :=
  (history.find? fun input => input.2.resolves).map fun input => input.2.ownPath input.1 source

/-- The answer to an operation behind a history. -/
def answerAfter (m : Mount) (history : List (Storage × Operation)) (input : Storage × Operation) :
    Answer :=
  match settled? m.source history with
  | some path => input.2.answerAt m.contextPath path
  | none => input.2.firstAnswer m.contextPath (input.2.ownPath input.1 m.source)

theorem settled?_cons (source : MountSource) (files : Storage) (op : Operation)
    (history : List (Storage × Operation)) :
    settled? source ((files, op) :: history) =
      if op.resolves then some (op.ownPath files source) else settled? source history := by
  rw [settled?, List.find?_cons]
  cases op.resolves <;> rfl

theorem perform_cons (m : Mount) (files : Storage) (op : Operation)
    (history : List (Storage × Operation)) :
    m.perform ((files, op) :: history) =
      ((m.step files op).1 :: ((m.step files op).2.perform history).1,
        ((m.step files op).2.perform history).2) :=
  rfl

theorem perform_append (m : Mount) (first second : List (Storage × Operation)) :
    m.perform (first ++ second) =
      ((m.perform first).1 ++ ((m.perform first).2.perform second).1,
        ((m.perform first).2.perform second).2) := by
  induction first generalizing m with
  | nil => rfl
  | cons input first ih => rw [List.cons_append, perform_cons, perform_cons, ih, List.cons_append]

theorem perform_of_fixed {m : Mount} {path : String} (h : m.fixed = some path)
    (history : List (Storage × Operation)) : (m.perform history).2 = m := by
  induction history with
  | nil => rfl
  | cons input history ih => rw [perform_cons, step_of_fixed h, ih]

/-- Once the filter path is fixed, every operation of a history is answered by it. -/
theorem perform_fst_of_fixed {m : Mount} {path : String} (h : m.fixed = some path)
    (history : List (Storage × Operation)) :
    (m.perform history).1 = history.map fun input => input.2.answerAt m.contextPath path := by
  induction history with
  | nil => rfl
  | cons input history ih => rw [perform_cons, step_of_fixed h, ih, List.map_cons]

/-- **A history fixes the filter path that its first operation in need of one puts in, and
changes nothing else.** -/
theorem perform_snd {m : Mount} (h : m.fixed = none) (history : List (Storage × Operation)) :
    (m.perform history).2 = { m with fixed := settled? m.source history } := by
  induction history with
  | nil =>
    rw [settled?, List.find?_nil, Option.map_none, ← h]
    rfl
  | cons input history ih =>
    obtain ⟨files, op⟩ := input
    rw [perform_cons, step_of_open h, settled?_cons]
    by_cases hresolves : op.resolves = true
    · rw [if_pos hresolves, if_pos hresolves]
      exact perform_of_fixed rfl history
    · rw [if_neg hresolves, if_neg hresolves, ih]

/-- **Every operation of a history is answered by what the operations before it have fixed.** -/
theorem perform_concat {m : Mount} (h : m.fixed = none) (history : List (Storage × Operation))
    (input : Storage × Operation) :
    (m.perform (history ++ [input])).1 =
      (m.perform history).1 ++ [m.answerAfter history input] := by
  obtain ⟨files, op⟩ := input
  have hanswer : (((m.perform history).2).step files op).1 = m.answerAfter history (files, op) := by
    rw [perform_snd h, answerAfter]
    cases hsettled : settled? m.source history with
    | some path => rw [step_of_fixed rfl]
    | none => rw [step_of_open rfl]
  rw [perform_append, perform_cons, hanswer]
  rfl

theorem length_perform (m : Mount) (history : List (Storage × Operation)) :
    (m.perform history).1.length = history.length := by
  induction history generalizing m with
  | nil => rfl
  | cons input history ih => rw [perform_cons, List.length_cons, List.length_cons, ih]

/-- The answer to any operation in a history, found by its place. -/
theorem answer_of_perform {m : Mount} (h : m.fixed = none)
    {before after : List (Storage × Operation)} {input : Storage × Operation}
    {earlier later : List Answer} {answer : Answer} (hlength : earlier.length = before.length)
    (hperform : (m.perform (before ++ input :: after)).1 = earlier ++ answer :: later) :
    answer = m.answerAfter before input := by
  rw [List.append_cons, perform_append, perform_concat h, List.append_assoc] at hperform
  have hsplit := (List.append_inj hperform (by rw [hlength, length_perform])).2
  exact (List.cons.inj hsplit).1.symm

/-! ### Histories of two mounts -/

/-- **The answers of a mount depend on its source through the filter paths that it gives alone.** -/
theorem perform_congr {m other : Mount} {history : List (Storage × Operation)}
    (hcontext : m.contextPath = other.contextPath) (hm : m.fixed = none)
    (hother : other.fixed = none)
    (h : ∀ input ∈ history, sourcePath input.1 m.source = sourcePath input.1 other.source) :
    (m.perform history).1 = (other.perform history).1 := by
  induction history with
  | nil => rfl
  | cons input history ih =>
    obtain ⟨files, op⟩ := input
    rw [List.forall_mem_cons] at h
    have hown : op.ownPath files m.source = op.ownPath files other.source := by
      cases op with
      | fix path => rfl
      | filterPath | contextPath | isResolved | redirect | relative | url => exact h.1
    rw [perform_cons, perform_cons, step_of_open hm, step_of_open hother, hown, hcontext]
    by_cases hresolves : op.resolves = true
    · rw [if_pos hresolves, if_pos hresolves, perform_fst_of_fixed rfl, perform_fst_of_fixed rfl]
    · rw [if_neg hresolves, if_neg hresolves, ih h.2]

/-- Where the source gives the same filter path at all times, operations that only ask are answered
as if the filter path were fixed. -/
theorem perform_of_asks {m : Mount} {path : String} {history : List (Storage × Operation)}
    (hm : m.fixed = none) (hasks : ∀ input ∈ history, input.2.asks = true)
    (h : ∀ input ∈ history, sourcePath input.1 m.source = path) :
    (m.perform history).1 = history.map fun input => input.2.answerAt m.contextPath path := by
  induction history with
  | nil => rfl
  | cons input history ih =>
    obtain ⟨files, op⟩ := input
    rw [List.forall_mem_cons] at hasks h
    rw [perform_cons, List.map_cons]
    cases op with
    | fix path => exact absurd hasks.1 Bool.false_ne_true
    | isResolved => exact absurd hasks.1 Bool.false_ne_true
    | contextPath =>
      rw [step_of_open hm]
      exact congrArg _ (ih hasks.2 h.2)
    | filterPath | redirect | relative | url =>
      have hfixed : ({ m with fixed := some path } : Mount).fixed = some path := rfl
      obtain rfl := h.1
      rw [step_of_open hm]
      exact congrArg _ (perform_fst_of_fixed hfixed history)

/-! ### What a history has fixed -/

section Settled

variable {source : MountSource} {history before after : List (Storage × Operation)}
  {files : Storage} {op : Operation}

theorem settled?_eq_none_iff :
    settled? source history = none ↔ ∀ input ∈ history, input.2.resolves = false := by
  rw [settled?, Option.map_eq_none_iff, List.find?_eq_none]
  exact forall₂_congr fun _ _ => Bool.not_eq_true _ ▸ Iff.rfl

/-- The first operation that needs the filter path settles it for good. -/
theorem settled?_append_cons (hbefore : ∀ input ∈ before, input.2.resolves = false)
    (hresolves : op.resolves = true) :
    settled? source (before ++ (files, op) :: after) = some (op.ownPath files source) := by
  induction before with
  | nil => rw [List.nil_append, settled?_cons, if_pos hresolves]
  | cons input before ih =>
    rw [List.forall_mem_cons] at hbefore
    rw [List.cons_append, settled?_cons, hbefore.1, ih hbefore.2]
    rfl

end Settled

end WebMount.Mount
