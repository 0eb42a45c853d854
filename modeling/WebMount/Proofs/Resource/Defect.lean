import WebMount.Proofs.Resource.Protocol

/-!
# Answers that a defect stops

A date that cannot be written is a defect, and it stops the program that answers. A command that
holds no such date is **sound**, and so is a step of a body that does nothing but sound commands and
copies. On whatever sink an answer is written, a defect stops it at once if the date of the
modification cannot be written (`Description.respond_of_unwritable`), and no defect stops it if its
dates can be written and its body is sound (`Description.respond_ne_crash`).
-/

namespace WebMount

open WebMount.Response WebMount.Time

variable {σ : Type} [Sink σ]

namespace Response

/-! ### Commands -/

/-- The command stands for operations: it holds no date that cannot be written. -/
def Command.Sound (c : Command) : Prop :=
  ∃ ops, c.ops = .ok ops

theorem dateHeader_of_writable {t : Instant} (h : HttpDate.Writable t) (name : String) :
    dateHeader name t = .ok (.header name (dateText t)) := by
  obtain ⟨date, hdate⟩ := HttpDate.exists_format? h
  exact dateHeader_of_some hdate name

theorem dateHeader_of_not_writable {t : Instant} (h : ¬HttpDate.Writable t) (name : String) :
    dateHeader name t = .error (.unwritableDate t) := by
  rw [dateHeader]
  split
  · next hdate => exact absurd (HttpDate.writable_of_format? hdate) h
  · rfl

/-- A sound command may fail where it writes, but no defect stops it. -/
theorem perform_ne_crash {c : Command} (h : c.Sound) (s : σ) (defect : Crash) :
    (perform s c).1 ≠ .error (.crash defect) := by
  obtain ⟨ops, hops⟩ := h
  simp only [perform, hops]
  obtain ⟨result, t⟩ := run s ops
  cases result <;> simp

theorem performAll_ne_crash {cs : List Command} (h : ∀ c ∈ cs, c.Sound) (s : σ) (defect : Crash) :
    (performAll s cs).1 ≠ .error (.crash defect) := by
  induction cs generalizing s with
  | nil => exact fun hnil => nomatch hnil
  | cons c cs ih =>
    have hc := perform_ne_crash (h c List.mem_cons_self) s defect
    rw [performAll]
    generalize perform s c = out at hc ⊢
    obtain ⟨result, t⟩ := out
    cases result with
    | ok => exact ih (fun d hd => h d (List.mem_cons_of_mem c hd)) t
    | error failure => exact hc

end Response

/-- The reason for which a resource does not answer is a defect only if the command met one. -/
theorem ResourceError.mapError_ne_crash {result : Except Failure Unit} {defect : Crash}
    (h : result ≠ .error (.crash defect)) :
    result.mapError ResourceError.ofFailure ≠ .error (.crash defect) := by
  cases result with
  | ok => exact fun hok => nomatch hok
  | error failure =>
    cases failure with
    | io cause => exact fun hio => nomatch hio
    | crash other =>
      intro hcrash
      obtain rfl : other = defect := by simpa [Except.mapError, ofFailure] using hcrash
      exact h rfl

/-! ### Bodies -/

namespace BodyStep

/-- No defect stops the step. -/
def Sound : BodyStep → Prop
  | command c => c.Sound
  | stream _ => True
  | fail reason => ∀ defect, reason ≠ .crash defect

theorem take_ne_crash {step : BodyStep} (h : step.Sound) (s : σ) (defect : Crash) :
    (take s step).1 ≠ .error (.crash defect) := by
  cases step with
  | command c =>
    have hc := ResourceError.mapError_ne_crash (perform_ne_crash h s defect)
    cases c with
    | flush => exact fun hflush => nomatch hflush
    | _ => exact hc
  | stream pieces =>
    rw [take]
    obtain ⟨result, out⟩ := Output.copy ⟨s, 0⟩ pieces
    cases result <;> simp
  | fail reason => exact fun hfail => h defect (Except.error.inj hfail)

theorem takeAll_ne_crash {steps : List BodyStep} (h : ∀ step ∈ steps, step.Sound) (s : σ)
    (defect : Crash) : (takeAll s steps).1 ≠ .error (.crash defect) := by
  induction steps generalizing s with
  | nil => exact fun hnil => nomatch hnil
  | cons step steps ih =>
    have hstep := take_ne_crash (h step List.mem_cons_self) s defect
    rw [takeAll]
    generalize take s step = out at hstep ⊢
    obtain ⟨result, t⟩ := out
    cases result with
    | ok => exact ih (fun other hother => h other (List.mem_cons_of_mem step hother)) t
    | error e => exact hstep

end BodyStep

/-! ### Descriptions -/

namespace Description

variable {d : Description} {request : Request}

theorem say_ne_crash {cs : List Command} (h : ∀ c ∈ cs, c.Sound) (s : σ) (defect : Crash) :
    (say s cs).1 ≠ .error (.crash defect) :=
  ResourceError.mapError_ne_crash (performAll_ne_crash h s defect)

theorem sound_commonCommands (h : d.DatesWritable request) :
    ∀ c ∈ d.commonCommands request, c.Sound := by
  intro c hc
  rcases List.mem_append.mp hc with hc | hc
  · obtain ⟨t, ht, rfl⟩ := List.mem_map.mp hc
    have hmodified := dateHeader_of_writable (h.modified t (by simpa using ht)) "last-modified"
    exact ⟨_, by rw [Command.ops, hmodified]; rfl⟩
  · obtain rfl := List.mem_singleton.mp hc
    have hdate := dateHeader_of_writable h.received "date"
    rw [cachingCommand]
    split
    · have hepoch := dateHeader_of_writable (t := .epoch) ⟨by decide, by decide⟩ "expires"
      exact ⟨_, by rw [Command.ops, disableCaching, hdate, hepoch]; rfl⟩
    · next hlifetime =>
      have hexpires := dateHeader_of_writable (h.expiry hlifetime) "expires"
      exact ⟨_, by rw [Command.ops, enableCaching, hdate, hexpires]; rfl⟩

/-- What is said about the data holds no date. -/
theorem sound_contentCommands (d : Description) (types : MediaTypes) :
    ∀ c ∈ d.contentCommands types, c.Sound := by
  intro c hc
  simp only [contentCommands, List.mem_append, List.mem_singleton, List.mem_map] at hc
  obtain ((rfl | ⟨value, -, rfl⟩) | hlength) | rfl := hc
  · exact ⟨_, rfl⟩
  · exact ⟨_, rfl⟩
  · split at hlength
    · obtain rfl := List.mem_singleton.mp hlength
      exact ⟨_, rfl⟩
    · exact absurd hlength List.not_mem_nil
  · exact ⟨_, rfl⟩

/-- **No defect stops an answer** whose dates can be written and whose body is sound. -/
theorem respond_ne_crash (settings : ResourceSettings) (h : d.DatesWritable request)
    (hbody : ∀ steps, d.body = some steps → ∀ step ∈ steps, step.Sound) (s : σ) (defect : Crash) :
    (d.respond settings request s).1 ≠ .error (.crash defect) := by
  have hcommon := say_ne_crash (sound_commonCommands h) s defect
  rw [respond]
  generalize say s (d.commonCommands request) = out at hcommon ⊢
  obtain ⟨result, t⟩ := out
  cases result with
  | error e => exact hcommon
  | ok =>
    have hone : ∀ c : Command, c.Sound → (say t [c]).1 ≠ .error (.crash defect) := by
      intro c hc
      refine say_ne_crash (fun other hother => ?_) t defect
      rwa [List.mem_singleton.mp hother]
    dsimp only
    split
    · exact hone _ ⟨_, rfl⟩
    · cases d.errorCode with
      | some code => exact hone _ ⟨_, rfl⟩
      | none =>
        cases hsteps : d.body with
        | none => simp
        | some steps =>
          have hcontent := say_ne_crash (d.sound_contentCommands settings.mediaTypes) t defect
          dsimp only
          generalize say t (d.contentCommands settings.mediaTypes) = out at hcontent ⊢
          obtain ⟨result, u⟩ := out
          cases result with
          | error e => exact hcontent
          | ok => exact BodyStep.takeAll_ne_crash (hbody steps hsteps) u defect

/-- **A date of the modification that cannot be written stops the answer** before anything is done
to the sink. -/
theorem respond_of_unwritable (settings : ResourceSettings) {t : Instant}
    (ht : d.lastModified = some t) (h : ¬HttpDate.Writable t) (s : σ) :
    d.respond settings request s = (.error (.crash (.unwritableDate t)), s) := by
  have hops : (Command.lastModified t).ops = .error (.unwritableDate t) := by
    rw [Command.ops, dateHeader_of_not_writable h]
    rfl
  simp only [respond, say, commonCommands, ht, Option.toList_some, List.map_cons, List.map_nil,
    List.cons_append, List.nil_append, performAll, perform, hops]
  rfl

end Description

end WebMount
