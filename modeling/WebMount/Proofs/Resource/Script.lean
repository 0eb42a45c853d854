import WebMount.Proofs.Response.Transfer

/-!
# Resources do what their programs do

The program of a resource, run on any sink that interrupts no write, has the result of the resource
and leaves the sink that the resource leaves (`Resource.run_script`). Each program is taken to
pieces as it was put together: a program that goes on with the result of another one runs after it
(`Script.run_bind`).
-/

namespace WebMount

open WebMount.Response

variable {σ ρ τ ε : Type} [Sink σ]

namespace Response

/-! ### Programs put together -/

/-- A program runs on the sink that the one before it leaves. -/
theorem Script.run_bind (p : Script ρ) (k : ρ → Script τ) (s : σ) :
    (p.bind k).run s = (k (p.run s).1).run (p.run s).2 := by
  induction p generalizing s with
  | done result => rfl
  | op o next ih => exact ih _ _

@[simp] theorem Script.run_map (f : ρ → τ) (p : Script ρ) (s : σ) :
    (p.map f).run s = (f (p.run s).1, (p.run s).2) :=
  p.run_bind _ s

theorem Script.run_andThen (p q : Script (Except ε Unit)) (s : σ) :
    (p.andThen q).run s =
      match p.run s with
      | (.ok (), s) => q.run s
      | (.error e, s) => (.error e, s) := by
  rw [Script.andThen, Script.run_bind]
  obtain ⟨result, t⟩ := p.run s
  cases result <;> rfl

/-- The program of operations performs them. -/
theorem Script.run_ofOps (ops : List Op) (s : σ) :
    (Script.ofOps ops).run s = Response.run s ops := by
  induction ops generalizing s with
  | nil => rfl
  | cons o ops ih =>
    rw [Script.ofOps, Script.run, Response.run]
    obtain ⟨result, t⟩ := Sink.step s o
    cases result with
    | ok => exact ih t
    | error e => rfl

/-! ### Commands -/

theorem Command.run_script (c : Command) (s : σ) : c.script.run s = perform s c := by
  rw [Command.script, perform]
  cases c.ops with
  | error defect => rfl
  | ok ops =>
    simp only [Script.run_map, Script.run_ofOps]
    obtain ⟨result, t⟩ := run s ops
    cases result <;> rfl

theorem Command.run_scriptAll (cs : List Command) (s : σ) :
    (Command.scriptAll cs).run s = performAll s cs := by
  induction cs generalizing s with
  | nil => rfl
  | cons c cs ih =>
    rw [Command.scriptAll, Script.run_andThen, Command.run_script, performAll]
    obtain ⟨result, t⟩ := perform s c
    cases result with
    | ok => exact ih t
    | error failure => rfl

end Response

theorem Description.run_sayScript (commands : List Command) (s : σ) :
    (sayScript commands).run s = say s commands := by
  rw [sayScript, Script.run_map, Command.run_scriptAll, say]

/-! ### Bodies, descriptions, resources -/

variable [Steady σ]

/-- The program of a copy does what the copy does, the count of bytes apart. -/
theorem Response.run_copyScript (rs : List ReadResult) (s : σ) (writes total : Nat) :
    (copyScript rs).run s =
      (((Output.copyFrom ⟨s, writes⟩ total rs).1.map fun _ => ()),
        (Output.copyFrom ⟨s, writes⟩ total rs).2.sink) := by
  -- the counts are kept beside the response and take no part in what is written
  induction rs generalizing s writes total with
  | nil => rfl
  | cons r rs ih =>
    cases r with
    | interrupted => exact ih s writes total
    | failing cause => rfl
    | bytes chunk =>
      by_cases hchunk : chunk = []
      · simp [copyScript, Output.copyFrom, hchunk, Script.run, Except.map]
      · simp only [copyScript, Output.copyFrom, Output.writeAll_eq ⟨s, writes⟩ hchunk,
          if_neg hchunk, Script.run]
        obtain ⟨result, t⟩ := Sink.step s (.write chunk)
        cases result with
        | ok => exact ih t (writes + 1) (total + chunk.length)
        | error cause => rfl

theorem BodyStep.run_script (step : BodyStep) (s : σ) : step.script.run s = step.take s := by
  cases step with
  | command c =>
    cases c <;> simp only [BodyStep.script, BodyStep.take, Script.run_map, Command.run_script]
  | stream pieces =>
    rw [BodyStep.script, Script.run_map, run_copyScript (reads pieces) s 0 0, BodyStep.take,
      Output.copy]
    obtain ⟨result, out⟩ := Output.copyFrom ⟨s, 0⟩ 0 (reads pieces)
    cases result <;> rfl
  | fail reason => rfl

theorem BodyStep.run_scriptAll (steps : List BodyStep) (s : σ) :
    (BodyStep.scriptAll steps).run s = BodyStep.takeAll s steps := by
  induction steps generalizing s with
  | nil => rfl
  | cons step steps ih =>
    rw [BodyStep.scriptAll, Script.run_andThen, BodyStep.run_script, BodyStep.takeAll]
    obtain ⟨result, t⟩ := BodyStep.take s step
    cases result with
    | ok => exact ih t
    | error e => rfl

namespace Description

theorem run_script (d : Description) (settings : ResourceSettings) (request : Request) (s : σ) :
    (d.script settings request).run s = d.respond settings request s := by
  rw [script, respond, Script.run_andThen, run_sayScript]
  obtain ⟨result, t⟩ := say s (d.commonCommands request)
  cases result with
  | error e => rfl
  | ok =>
    dsimp only
    split
    · exact run_sayScript _ t
    · cases d.errorCode with
      | some code => exact run_sayScript _ t
      | none =>
        cases d.body with
        | none => rfl
        | some body =>
          dsimp only
          rw [Script.run_andThen, run_sayScript]
          obtain ⟨result, u⟩ := say t (d.contentCommands settings.mediaTypes)
          cases result with
          | error e => rfl
          | ok => exact BodyStep.run_scriptAll body u

end Description

/-- **A resource does what its program does**, as long as no write is interrupted. -/
theorem Resource.run_script (r : Resource) (files : Storage) (settings : ResourceSettings)
    (request : Request) (s : σ) :
    (r.script files settings request).run s = r.respond files settings request s := by
  rw [Resource.script, Resource.respond]
  cases r.describe files settings request with
  | ok d => exact d.run_script settings request s
  | error defect => rfl

end WebMount
