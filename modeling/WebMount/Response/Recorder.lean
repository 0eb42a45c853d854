import WebMount.Response.Transfer

/-!
# Recorded responses

A sink that keeps every operation it accepts, in order, and may be set to refuse: all writes from
a given one on, or all flushes. It does not know of commitment, so it takes any operation at any
time.
-/

namespace WebMount.Response

/-- A sink that keeps the operations it accepts. -/
structure Recorder where
  accepted : List Op := []
  /-- The number of writes that are accepted before the first refusal, if any is refused. -/
  writeLimit : Option Nat := none
  refusesFlush : Bool := false
  writes : Nat := 0
  deriving DecidableEq, Repr

namespace Recorder

/-- The failure of a write that is refused. -/
def clientGone : IoError := ⟨.brokenPipe, "client went away"⟩

/-- The failure of a flush that is refused. -/
def flushFailed : IoError := ⟨.connectionReset, "flush failed"⟩

/-- Whether the next write is refused. -/
def refusesWrite (s : Recorder) : Bool :=
  match s.writeLimit with
  | some limit => decide (limit ≤ s.writes)
  | none => false

/-- One operation on a recorder. -/
def step (s : Recorder) (op : Op) : Except IoError Unit × Recorder :=
  match op with
  | .write _ =>
    if s.refusesWrite then (.error clientGone, s)
    else (.ok (), { s with accepted := s.accepted ++ [op], writes := s.writes + 1 })
  | .flush =>
    if s.refusesFlush then (.error flushFailed, s)
    else (.ok (), { s with accepted := s.accepted ++ [op] })
  | _ => (.ok (), { s with accepted := s.accepted ++ [op] })

/-- A write that is refused is refused for good. -/
theorem not_interrupts (after before : Recorder) : ¬Interrupts step after before := by
  rintro ⟨bytes, cause, h, hcause⟩
  rw [step] at h
  split at h
  · rw [← Except.error.inj (Prod.mk.inj h).1] at hcause
    exact absurd hcause (by decide)
  · exact absurd (congrArg Prod.fst h) (by simp)

instance : Sink Recorder where
  step := step
  patient := Interrupts.wellFounded not_interrupts

instance : Steady Recorder where
  not_interrupts := not_interrupts

end Recorder

end WebMount.Response
