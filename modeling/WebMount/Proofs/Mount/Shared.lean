import WebMount.Proofs.Mount.History

/-!
# A shared mount is used as if by one

Each move of a thread does one of eight things (`SharedMount.Step`). Most of them are seen by
nobody; the others answer an operation as the mount would answer someone who uses it alone
(`Step.effect`). So the log of any run is a history of that mount (`Explained.run`), and the laws of
histories hold for threads: the filter path is fixed once, by the first operation that needs it, and
everyone is answered according to it (`fixed_once`). No thread waits for ever: what it waits for can
be done (`Coherent.canFinish`).
-/

namespace WebMount

open Mount

namespace SharedMount

variable {files : Storage} {s t : SharedMount} {move : Move} {thread : Nat}

/-! ### What a move does -/

theorem mount_finish (s : SharedMount) (thread : Nat) (files : Storage) (op : Operation)
    (answer : Mount.Answer) : (s.finish thread files op answer).mount = s.mount :=
  rfl

theorem progress_setProgress (s : SharedMount) (thread other : Nat) (p : Progress) :
    (s.setProgress thread p).progress other = if other = thread then p else s.progress other :=
  rfl

theorem progress_finish (s : SharedMount) (thread other : Nat) (files : Storage) (op : Operation)
    (answer : Mount.Answer) :
    (s.finish thread files op answer).progress other =
      if other = thread then .idle else s.progress other :=
  rfl

theorem progress_claim (s : SharedMount) (thread other : Nat) (op : Operation) :
    (s.claim thread op).progress other = if other = thread then .finding op else s.progress other :=
  rfl

theorem progress_fill (s : SharedMount) (thread other : Nat) (seen : Storage) (op : Operation) :
    (s.fill thread seen op).progress other = if other = thread then .idle else s.progress other :=
  rfl

/-- What a move can do. -/
inductive Step (files : Storage) (s : SharedMount) : Move → SharedMount → Prop where
  | call {thread : Nat} {op : Operation} (hidle : s.progress thread = .idle) :
    Step files s (.call thread op) (s.setProgress thread (.called op))
  /-- An operation that does not need the filter path is answered at once. -/
  | look {thread : Nat} {op : Operation} (hcalled : s.progress thread = .called op)
    (hop : op.resolves = false) :
    Step files s (.advance thread) (s.finish thread files op (s.mount.step files op).1)
  | claim {thread : Nat} {op : Operation} (hcalled : s.progress thread = .called op)
    (hop : op.resolves = true) (hcell : s.cell = .empty) :
    Step files s (.advance thread) (s.claim thread op)
  | read {thread : Nat} {op : Operation} {path : String} (hcalled : s.progress thread = .called op)
    (hcell : s.cell = .full path) :
    Step files s (.advance thread) (s.finish thread files op (op.answerAt s.contextPath path))
  | overtaken {thread : Nat} {late path : String}
    (hcalled : s.progress thread = .called (.fix late)) (hcell : s.cell = .full path) :
    Step files s (.advance thread) (s.setProgress thread (.late late))
  | find {thread : Nat} {op : Operation} (hfinding : s.progress thread = .finding op) :
    Step files s (.advance thread) (s.setProgress thread (.found op files))
  | fill {thread : Nat} {op : Operation} {seen : Storage}
    (hfound : s.progress thread = .found op seen) :
    Step files s (.advance thread) (s.fill thread seen op)
  | report {thread : Nat} {late path : String} (hlate : s.progress thread = .late late)
    (hcell : s.cell = .full path) :
    Step files s (.advance thread)
      (s.finish thread files (.fix late) (.refused (.alreadyFixed path)))

theorem path?_eq_some_iff {cell : Cell} {path : String} :
    cell.path? = some path ↔ cell = .full path := by
  cases cell <;> simp [Cell.path?]

theorem step_of_enter? {op : Operation} (hcalled : s.progress thread = .called op)
    (hop : op.resolves = true) (h : s.enter? files thread op = some t) :
    Step files s (.advance thread) t := by
  unfold enter? at h
  split at h
  · next hcell =>
    obtain rfl := Option.some.inj h
    exact .claim hcalled hop hcell
  · exact absurd h (by simp)
  · next path hcell =>
    split at h
    · next late =>
      obtain rfl := Option.some.inj h
      exact .overtaken hcalled hcell
    · obtain rfl := Option.some.inj h
      exact .read hcalled hcell

/-- **A move does one of these things.** -/
theorem step_of_move? (h : s.move? files move = some t) : Step files s move t := by
  cases move with
  | call thread op =>
    rw [move?] at h
    split at h
    · next hidle =>
      obtain rfl := Option.some.inj h
      exact .call hidle
    · exact absurd h (by simp)
  | advance thread =>
    rw [move?, advance?] at h
    split at h
    · exact absurd h (by simp)
    · next hcalled =>
      obtain rfl := Option.some.inj h
      exact .look hcalled rfl
    · next hcalled =>
      obtain rfl := Option.some.inj h
      exact .look hcalled rfl
    · next op hcontext hasks hcalled =>
      refine step_of_enter? hcalled ?_ h
      cases op with
      | contextPath => exact absurd rfl hcontext
      | isResolved => exact absurd rfl hasks
      | fix | filterPath | redirect | relative | url => rfl
    · next op hfinding =>
      obtain rfl := Option.some.inj h
      exact .find hfinding
    · next op seen hfound =>
      obtain rfl := Option.some.inj h
      exact .fill hfound
    · next late hlate =>
      obtain ⟨path, hpath, rfl⟩ := Option.map_eq_some_iff.mp h
      exact .report hlate (path?_eq_some_iff.mp hpath)

/-! ### Who holds the cell -/

/-- The cell is claimed by the one thread that is about to fill it, and a thread comes late only to
a cell that is full. -/
structure Coherent (s : SharedMount) : Prop where
  claims : ∀ thread op, (s.progress thread).claims? = some op →
    s.cell = .claimed thread ∧ op.resolves = true
  claimed : ∀ thread, s.cell = .claimed thread → ∃ op, (s.progress thread).claims? = some op
  late : ∀ thread path, s.progress thread = .late path → ∃ current, s.cell = .full current

/-- A thread may go on as long as it neither takes nor leaves the claim. -/
theorem Coherent.setProgress (hs : s.Coherent) {p : Progress}
    (hclaims : p.claims? = (s.progress thread).claims?)
    (hlate : ∀ path, p = .late path → ∃ current, s.cell = .full current) :
    (s.setProgress thread p).Coherent := by
  have hsame : ∀ other,
      ((s.setProgress thread p).progress other).claims? = (s.progress other).claims? := by
    intro other
    rw [progress_setProgress]
    split
    · next hother => rw [hclaims, hother]
    · rfl
  refine ⟨fun other op hop => ?_, fun other hclaimed => ?_, fun other path hpath => ?_⟩
  · exact hs.claims other op (hsame other ▸ hop)
  · rw [hsame other]
    exact hs.claimed other hclaimed
  · rw [progress_setProgress] at hpath
    split at hpath
    · exact hlate path hpath
    · exact hs.late other path hpath

theorem Coherent.finish (hs : s.Coherent) (hclaims : (s.progress thread).claims? = none)
    (files : Storage) (op : Operation) (answer : Mount.Answer) :
    (s.finish thread files op answer).Coherent := by
  have hidle := hs.setProgress (p := .idle) hclaims.symm (fun _ h => nomatch h)
  exact ⟨hidle.claims, hidle.claimed, hidle.late⟩

theorem Coherent.step (hs : s.Coherent) (h : Step files s move t) : t.Coherent := by
  cases h with
  | call hidle => exact hs.setProgress (by rw [hidle]; rfl) (fun _ h => nomatch h)
  | look hcalled hop | read hcalled hcell => exact hs.finish (by rw [hcalled]; rfl) _ _ _
  | overtaken hcalled hcell =>
    exact hs.setProgress (by rw [hcalled]; rfl) fun _ _ => ⟨_, hcell⟩
  | report hlate hcell => exact hs.finish (by rw [hlate]; rfl) _ _ _
  | find hfinding => exact hs.setProgress (by rw [hfinding]; rfl) (fun _ h => nomatch h)
  | @claim thread op hcalled hop hcell =>
    refine ⟨fun other op' hclaims => ?_, fun other hclaimed => ?_, fun other path hlate => ?_⟩
    · rw [progress_claim] at hclaims
      split at hclaims
      · next hother =>
        obtain rfl := Option.some.inj hclaims
        exact ⟨by rw [hother]; rfl, hop⟩
      · exact nomatch hcell.symm.trans (hs.claims other op' hclaims).1
    · obtain rfl := Cell.claimed.inj hclaimed
      exact ⟨op, by rw [progress_claim, if_pos rfl]; rfl⟩
    · rw [progress_claim] at hlate
      split at hlate
      · exact nomatch hlate
      · obtain ⟨current, hfull⟩ := hs.late other path hlate
        exact nomatch hcell.symm.trans hfull
  | @fill thread op seen hfound =>
    have hcell := (hs.claims thread op (by rw [hfound]; rfl)).1
    refine ⟨fun other op' hother => ?_, fun _ hclaimed => ?_, fun _ _ _ => ⟨_, rfl⟩⟩
    · rw [progress_fill] at hother
      split at hother
      · exact nomatch hother
      · next hne =>
        -- two threads cannot have claimed the cell
        have hboth := hcell.symm.trans (hs.claims other op' hother).1
        exact absurd (Cell.claimed.inj hboth).symm hne
    · exact nomatch hclaimed

/-! ### What a step says -/

/-- An operation that does not need the filter path leaves the mount as it is. -/
theorem step_snd_of_not_resolves (m : Mount) (files : Storage) {op : Operation}
    (hop : op.resolves = false) : (m.step files op).2 = m := by
  cases hfixed : m.fixed with
  | some path => rw [step_of_fixed hfixed]
  | none =>
    rw [step_of_open hfixed, hop]
    rfl

/-- **A step is seen by nobody, or it answers an operation as the mount does for someone who uses it
alone.** -/
theorem Step.effect (hs : s.Coherent) (h : Step files s move t) :
    (t.log = s.log ∧ t.mount = s.mount) ∨
    ∃ thread seen op, t.log = s.log ++ [⟨thread, seen, op, (s.mount.step seen op).1⟩] ∧
      t.mount = (s.mount.step seen op).2 := by
  cases h with
  | call | find | overtaken => exact .inl ⟨rfl, rfl⟩
  | claim hcalled hop hcell =>
    refine .inl ⟨rfl, ?_⟩
    rw [mount, mount, hcell]
    rfl
  | @look thread op hcalled hop =>
    exact .inr ⟨thread, files, op, rfl, (step_snd_of_not_resolves s.mount files hop).symm⟩
  | @read thread op path hcalled hcell =>
    have hfixed : s.mount.fixed = some path := path?_eq_some_iff.mpr hcell
    refine .inr ⟨thread, files, op, ?_, ?_⟩
    · rw [step_of_fixed hfixed]
      rfl
    · rw [step_of_fixed hfixed, mount_finish]
  | @report thread late path hlate hcell =>
    have hfixed : s.mount.fixed = some path := path?_eq_some_iff.mpr hcell
    refine .inr ⟨thread, files, .fix late, ?_, ?_⟩
    · rw [step_of_fixed hfixed]
      rfl
    · rw [step_of_fixed hfixed, mount_finish]
  | @fill thread op seen hfound =>
    obtain ⟨hcell, hop⟩ := hs.claims thread op (by rw [hfound]; rfl)
    have hopen : s.mount.fixed = none := by
      rw [mount, hcell]
      rfl
    refine .inr ⟨thread, seen, op, ?_, ?_⟩
    · rw [step_of_open hopen]
      rfl
    · rw [step_of_open hopen, if_pos hop]
      rfl

/-! ### A run as a history -/

/-- The log is a history of the mount `m`, and the mount is as that history leaves it. -/
structure Explained (m : Mount) (s : SharedMount) : Prop where
  coherent : s.Coherent
  history : m.perform (s.log.map Effect.input) = (s.log.map Effect.answer, s.mount)

variable {m : Mount} {contextPath : String} {source : MountSource}
  {schedule : List (Storage × Move)}

theorem Explained.create (contextPath : String) (source : MountSource) :
    Explained (.create contextPath source) (.create contextPath source) :=
  ⟨⟨(fun _ _ h => nomatch h), (fun _ h => nomatch h), (fun _ _ h => nomatch h)⟩, rfl⟩

theorem Explained.step (hs : Explained m s) (h : Step files s move t) : Explained m t := by
  refine ⟨hs.coherent.step h, ?_⟩
  rcases h.effect hs.coherent with ⟨hlog, hmount⟩ | ⟨thread, seen, op, hlog, hmount⟩
  · rw [hlog, hmount, hs.history]
  · rw [hlog, hmount, List.map_append, List.map_append, perform_append, hs.history]
    rfl

/-- **Every run is explained by the history in its log.** -/
theorem Explained.run (hs : Explained m s) (h : s.run? schedule = some t) : Explained m t := by
  induction schedule generalizing s with
  | nil => exact Option.some.inj h ▸ hs
  | cons input schedule ih =>
    obtain ⟨files, move⟩ := input
    obtain ⟨u, hmove, hrun⟩ := Option.bind_eq_some_iff.mp h
    exact ih (hs.step (step_of_move? hmove)) hrun

/-- **What has taken effect stays.** -/
theorem log_of_run (hs : s.Coherent) (h : s.run? schedule = some t) : s.log <+: t.log := by
  induction schedule generalizing s with
  | nil => exact Option.some.inj h ▸ List.prefix_rfl
  | cons input schedule ih =>
    obtain ⟨files, move⟩ := input
    obtain ⟨u, hmove, hrun⟩ := Option.bind_eq_some_iff.mp h
    have hstep := step_of_move? hmove
    have hlog : s.log <+: u.log := by
      rcases hstep.effect hs with ⟨hlog, -⟩ | ⟨thread, seen, op, hlog, -⟩
      · exact hlog ▸ List.prefix_rfl
      · exact hlog ▸ List.prefix_append _ _
    exact hlog.trans (ih (hs.step hstep) hrun)

/-- **Once the filter path is fixed, no run changes the mount.** -/
theorem mount_of_run {path : String} (hs : s.Coherent) (hfixed : s.mount.fixed = some path)
    (h : s.run? schedule = some t) : t.mount = s.mount := by
  induction schedule generalizing s with
  | nil => rw [Option.some.inj h]
  | cons input schedule ih =>
    obtain ⟨files, move⟩ := input
    obtain ⟨u, hmove, hrun⟩ := Option.bind_eq_some_iff.mp h
    have hstep := step_of_move? hmove
    have hmount : u.mount = s.mount := by
      rcases hstep.effect hs with ⟨-, hmount⟩ | ⟨thread, seen, op, -, hmount⟩
      · exact hmount
      · rw [hmount, step_of_fixed hfixed]
    rw [ih (hs.step hstep) (hmount ▸ hfixed) hrun, hmount]

/-! ### No operation is lost -/

theorem doneBy_finish (s : SharedMount) (thread other : Nat) (files : Storage) (op : Operation)
    (answer : Mount.Answer) :
    (s.finish thread files op answer).doneBy other =
      s.doneBy other ++ if thread = other then [op] else [] := by
  rw [doneBy, finish, List.filterMap_append]
  refine congrArg (s.doneBy other ++ ·) ?_
  split
  · next h => simp [h]
  · next h => simp [h]

/-- The operations of a thread, answered or not. -/
def opsOf (s : SharedMount) (thread : Nat) : List Operation :=
  s.doneBy thread ++ (s.progress thread).pending

theorem opsOf_setProgress (s : SharedMount) (thread other : Nat) (p : Progress) :
    (s.setProgress thread p).opsOf other =
      if other = thread then s.doneBy other ++ p.pending else s.opsOf other := by
  rw [opsOf, progress_setProgress]
  split <;> rfl

theorem opsOf_finish (s : SharedMount) (thread other : Nat) (files : Storage) (op : Operation)
    (answer : Mount.Answer) :
    (s.finish thread files op answer).opsOf other =
      if other = thread then s.doneBy other ++ [op] else s.opsOf other := by
  rw [opsOf, doneBy_finish, progress_finish]
  by_cases hother : other = thread
  · simp [hother, Progress.pending]
  · simp [hother, Ne.symm hother, opsOf]

/-- A step that goes on with an operation keeps the operations of everyone. -/
theorem opsOf_setProgress_of_pending {p : Progress}
    (hpending : p.pending = (s.progress thread).pending) (other : Nat) :
    (s.setProgress thread p).opsOf other = s.opsOf other := by
  rw [opsOf_setProgress]
  split
  · next hother => rw [opsOf, hpending, hother]
  · rfl

/-- A step that answers an operation keeps the operations of everyone. -/
theorem opsOf_finish_of_pending {op : Operation} (hpending : (s.progress thread).pending = [op])
    (files : Storage) (answer : Mount.Answer) (other : Nat) :
    (s.finish thread files op answer).opsOf other = s.opsOf other := by
  rw [opsOf_finish]
  split
  · next hother => rw [opsOf, hother, hpending]
  · rfl

/-- A thread that goes on keeps the operations of everyone. -/
theorem Step.opsOf_advance (h : Step files s (.advance thread) t) (other : Nat) :
    t.opsOf other = s.opsOf other := by
  cases h with
  | look hcalled | read hcalled =>
    exact opsOf_finish_of_pending (by rw [hcalled]; rfl) _ _ other
  | fill hfound => exact opsOf_finish_of_pending (by rw [hfound]; rfl) _ _ other
  | report hlate => exact opsOf_finish_of_pending (by rw [hlate]; rfl) _ _ other
  | @claim _ op hcalled =>
    exact opsOf_setProgress_of_pending (p := .finding op) (by rw [hcalled]; rfl) other
  | find hfinding => exact opsOf_setProgress_of_pending (by rw [hfinding]; rfl) other
  | overtaken hcalled => exact opsOf_setProgress_of_pending (by rw [hcalled]; rfl) other

/-- **A step loses no operation and adds none but the one that is called.** -/
theorem Step.opsOf (h : Step files s move t) (other : Nat) :
    t.opsOf other = s.opsOf other ++ callsOf other [(files, move)] := by
  cases move with
  | advance thread =>
    rw [h.opsOf_advance, callsOf, List.filterMap_cons, List.filterMap_nil, List.append_nil]
  | call thread op =>
    cases h with
    | call hidle =>
      rw [opsOf_setProgress]
      by_cases hother : other = thread
      · rw [if_pos hother, SharedMount.opsOf, hother, hidle]
        simp [callsOf, Progress.pending]
      · rw [if_neg hother]
        simp [callsOf, Ne.symm hother]

theorem callsOf_cons (input : Storage × Move) (schedule : List (Storage × Move)) :
    callsOf thread (input :: schedule) = callsOf thread [input] ++ callsOf thread schedule :=
  List.filterMap_append (l := [input])

/-- **Whatever a thread has called is answered or still to be answered, in the order in which it was
called.** -/
theorem opsOf_of_run (h : s.run? schedule = some t) (thread : Nat) :
    t.opsOf thread = s.opsOf thread ++ callsOf thread schedule := by
  induction schedule generalizing s with
  | nil => rw [Option.some.inj h, callsOf, List.filterMap_nil, List.append_nil]
  | cons input schedule ih =>
    obtain ⟨files, move⟩ := input
    obtain ⟨u, hmove, hrun⟩ := Option.bind_eq_some_iff.mp h
    rw [ih hrun, (step_of_move? hmove).opsOf thread, List.append_assoc, ← callsOf_cons]

/-! ### Nobody waits for ever -/

/-- The thread gets its answer if some threads make their next steps, one after the other. -/
def CanFinish (files : Storage) (s : SharedMount) (thread : Nat) : Prop :=
  ∃ (actors : List Nat) (u : SharedMount),
    s.run? (actors.map fun actor => (files, Move.advance actor)) = some u ∧
      u.progress thread = .idle

theorem CanFinish.of_idle (h : s.progress thread = .idle) : CanFinish files s thread :=
  ⟨[], s, rfl, h⟩

theorem CanFinish.of_advance {actor : Nat} (hadvance : s.advance? files actor = some t)
    (h : CanFinish files t thread) : CanFinish files s thread := by
  obtain ⟨actors, u, hrun, hidle⟩ := h
  exact ⟨actor :: actors, u, Option.bind_eq_some_iff.mpr ⟨t, hadvance, hrun⟩, hidle⟩

theorem progress_finish_self (s : SharedMount) (thread : Nat) (files : Storage) (op : Operation)
    (answer : Mount.Answer) : (s.finish thread files op answer).progress thread = .idle := by
  rw [progress_finish, if_pos rfl]

theorem progress_setProgress_self (s : SharedMount) (thread : Nat) (p : Progress) :
    (s.setProgress thread p).progress thread = p := by
  rw [progress_setProgress, if_pos rfl]

theorem advance?_of_called {op : Operation} (hcalled : s.progress thread = .called op)
    (hop : op.resolves = true) : s.advance? files thread = s.enter? files thread op := by
  rw [advance?, hcalled]
  cases op with
  | contextPath | isResolved => exact nomatch hop
  | fix | filterPath | redirect | relative | url => rfl

theorem CanFinish.of_found {op : Operation} {seen : Storage}
    (h : s.progress thread = .found op seen) : CanFinish files s thread :=
  .of_advance (t := s.fill thread seen op) (by rw [advance?, h])
    (.of_idle (by rw [progress_fill, if_pos rfl]))

theorem CanFinish.of_finding {op : Operation} (h : s.progress thread = .finding op) :
    CanFinish files s thread :=
  .of_advance (t := s.setProgress thread (.found op files)) (by rw [advance?, h])
    (.of_found (progress_setProgress_self s thread _))

theorem CanFinish.of_late {late path : String} (h : s.progress thread = .late late)
    (hcell : s.cell = .full path) : CanFinish files s thread :=
  .of_advance (t := s.finish thread files (.fix late) (.refused (.alreadyFixed path)))
    (by rw [advance?, h, hcell]; rfl) (.of_idle (progress_finish_self s thread files _ _))

/-- A thread that finds the cell empty claims it and goes on. -/
theorem CanFinish.of_empty {op : Operation} (h : s.progress thread = .called op)
    (hop : op.resolves = true) (hcell : s.cell = .empty) : CanFinish files s thread :=
  .of_advance (t := s.claim thread op) (by rw [advance?_of_called h hop, enter?, hcell])
    (.of_finding (progress_setProgress_self s thread _))

theorem CanFinish.of_full {op : Operation} {path : String} (h : s.progress thread = .called op)
    (hop : op.resolves = true) (hcell : s.cell = .full path) : CanFinish files s thread := by
  have henter : s.advance? files thread = s.enter? files thread op := advance?_of_called h hop
  rw [enter?, hcell] at henter
  cases op with
  | fix late =>
    exact .of_advance henter (.of_late (progress_setProgress_self s thread _) hcell)
  | contextPath | isResolved | filterPath | redirect | relative | url =>
    exact .of_advance henter (.of_idle (progress_finish_self s thread files _ _))

/-- Whoever waits for the claim of another thread gets on when that thread has filled the cell. -/
theorem CanFinish.of_claimed {op : Operation} {other : Nat} (hs : s.Coherent)
    (h : s.progress thread = .called op) (hop : op.resolves = true)
    (hcell : s.cell = .claimed other) : CanFinish files s thread := by
  obtain ⟨op', hclaims⟩ := hs.claimed other hcell
  have hother : thread ≠ other := by
    rintro rfl
    rw [h] at hclaims
    exact nomatch hclaims
  have hfill : ∀ {u : SharedMount} {seen : Storage}, u.progress other = .found op' seen →
      u.progress thread = .called op → CanFinish files u thread := by
    intro u seen hfound hcalled
    refine .of_advance (t := u.fill other seen op') (by rw [advance?, hfound]) (.of_full ?_ hop rfl)
    rw [progress_fill, if_neg hother, hcalled]
  cases hprogress : s.progress other with
  | found op'' seen =>
    rw [hprogress] at hclaims
    obtain rfl := Option.some.inj hclaims
    exact hfill hprogress h
  | finding op'' =>
    rw [hprogress] at hclaims
    obtain rfl := Option.some.inj hclaims
    refine .of_advance (t := s.setProgress other (.found op'' files)) (by rw [advance?, hprogress])
      (hfill (progress_setProgress_self s other _) ?_)
    rw [progress_setProgress, if_neg hother, h]
  | idle | called | late =>
    rw [hprogress] at hclaims
    exact nomatch hclaims

/-- **No thread waits for ever.** -/
theorem Coherent.canFinish (hs : s.Coherent) (files : Storage) (thread : Nat) :
    CanFinish files s thread := by
  cases hprogress : s.progress thread with
  | idle => exact .of_idle hprogress
  | finding op => exact .of_finding hprogress
  | found op seen => exact .of_found hprogress
  | late path =>
    obtain ⟨current, hcell⟩ := hs.late thread path hprogress
    exact .of_late hprogress hcell
  | called op =>
    by_cases hop : op.resolves = true
    · cases hcell : s.cell with
      | empty => exact .of_empty hprogress hop hcell
      | claimed other => exact .of_claimed hs hprogress hop hcell
      | full path => exact .of_full hprogress hop hcell
    · -- an operation that does not need the path never waits
      cases op with
      | contextPath | isResolved =>
        exact .of_advance (by rw [advance?, hprogress])
          (.of_idle (progress_finish_self s thread files _ _))
      | fix | filterPath | redirect | relative | url => exact absurd rfl hop

/-! ### The answers in a run -/

section Answers

variable {before after : List Effect} {e : Effect}

/-- Every operation is answered by what the operations before it in the log have fixed. -/
theorem Explained.answer (hs : Explained m s) (hopen : m.fixed = none)
    (hlog : s.log = before ++ e :: after) :
    e.answer = m.answerAfter (before.map Effect.input) e.input := by
  have hhistory := congrArg Prod.fst hs.history
  rw [hlog, List.map_append, List.map_append, List.map_cons, List.map_cons] at hhistory
  exact answer_of_perform hopen (by rw [List.length_map, List.length_map]) hhistory

/-- The filter path is the one that the log settles. -/
theorem Explained.fixed (hs : Explained m s) (hopen : m.fixed = none) :
    s.mount.fixed = settled? m.source (s.log.map Effect.input) := by
  have hhistory := congrArg Prod.snd hs.history
  rw [perform_snd hopen] at hhistory
  exact congrArg Mount.fixed hhistory.symm

theorem settled?_inputs_eq_none_iff {log : List Effect} :
    settled? source (log.map Effect.input) = none ↔ ∀ e ∈ log, e.op.resolves = false := by
  rw [settled?_eq_none_iff, List.forall_mem_map]
  rfl

theorem Explained.answer_first (hs : Explained m s) (hopen : m.fixed = none)
    (hlog : s.log = before ++ e :: after) (hquiet : ∀ e' ∈ before, e'.op.resolves = false) :
    e.answer = e.op.firstAnswer m.contextPath (e.op.ownPath e.files m.source) := by
  rw [hs.answer hopen hlog, answerAfter, settled?_inputs_eq_none_iff.mpr hquiet]
  rfl

theorem settled?_inputs_append_cons (hquiet : ∀ e' ∈ before, e'.op.resolves = false)
    (hresolves : e.op.resolves = true) :
    settled? source ((before ++ e :: after).map Effect.input) =
      some (e.op.ownPath e.files source) := by
  rw [List.map_append, List.map_cons]
  exact settled?_append_cons (List.forall_mem_map.mpr hquiet) hresolves

theorem Explained.answer_later (hs : Explained m s) (hopen : m.fixed = none)
    (hlog : s.log = before ++ e :: after) (hquiet : ∀ e' ∈ before, e'.op.resolves = false)
    (hresolves : e.op.resolves = true) {later : Effect} (hlater : later ∈ after) :
    later.answer = later.op.answerAt m.contextPath (e.op.ownPath e.files m.source) := by
  obtain ⟨between, rest, rfl⟩ := List.append_of_mem hlater
  have hsplit : s.log = (before ++ e :: between) ++ later :: rest := by
    rw [hlog, List.append_assoc, List.cons_append]
  rw [hs.answer hopen hsplit, answerAfter, settled?_inputs_append_cons hquiet hresolves]
  rfl

/-- **A filter path can be fixed by hand exactly as long as nothing has needed one.** -/
theorem Explained.fix_done_iff {path : String} (hs : Explained m s) (hopen : m.fixed = none)
    (hlog : s.log = before ++ e :: after) (hop : e.op = .fix path) :
    e.answer = .done ↔ ∀ e' ∈ before, e'.op.resolves = false := by
  refine ⟨fun hdone => ?_, fun hquiet => ?_⟩
  · rw [hs.answer hopen hlog, answerAfter] at hdone
    split at hdone
    · rw [Effect.input, hop] at hdone
      cases hdone
    · next hnone => exact settled?_inputs_eq_none_iff.mp hnone
  · rw [hs.answer_first hopen hlog hquiet, hop]
    rfl

theorem fixes_iff {e : Effect} :
    e.fixes = true ↔ (∃ path, e.op = .fix path) ∧ e.answer = .done := by
  rw [Effect.fixes]
  cases e.op <;> simp

/-- **The filter path is fixed by hand at most once.** -/
theorem Explained.countP_fixes_le_one (hs : Explained m s) (hopen : m.fixed = none) :
    s.log.countP Effect.fixes ≤ 1 := by
  cases hfind : s.log.find? Effect.fixes with
  | none =>
    have hzero := List.countP_eq_zero.mpr (List.find?_eq_none.mp hfind)
    omega
  | some e =>
    obtain ⟨hfixes, before, after, hlog, hbefore⟩ := List.find?_eq_some_iff_append.mp hfind
    obtain ⟨⟨path, hop⟩, hdone⟩ := fixes_iff.mp hfixes
    have hresolves : e.op.resolves = true := by rw [hop]; rfl
    have hquiet := (hs.fix_done_iff hopen hlog hop).mp hdone
    have hafter : ∀ later ∈ after, ¬ later.fixes = true := by
      intro later hlater hfixes
      obtain ⟨⟨path', hop'⟩, hdone'⟩ := fixes_iff.mp hfixes
      rw [hs.answer_later hopen hlog hquiet hresolves hlater, hop'] at hdone'
      exact nomatch hdone'
    have hnone : before.countP Effect.fixes = 0 :=
      List.countP_eq_zero.mpr fun e' he' hfixes => by simpa [hfixes] using hbefore e' he'
    have hnoneLater : after.countP Effect.fixes = 0 := List.countP_eq_zero.mpr hafter
    have hsum : s.log.countP Effect.fixes =
        before.countP Effect.fixes + (after.countP Effect.fixes + 1) := by
      rw [hlog, List.countP_append, List.countP_cons, if_pos hfixes]
    omega

end Answers

/-- **The filter path of a shared mount is fixed once, and everyone sees the same.** Whatever the
threads do, and whatever becomes of the stored files meanwhile: the operations are answered as if
they were made one after the other; none is lost; at most one fixes the path by hand, and that is
one that comes before anything has needed the path; the first operation that needs the path fixes
it, and everything after it is answered by that path, a path that should be fixed later by being
refused with it; without such an operation nothing is fixed; and from then on no run changes the
mount, and no thread waits for ever. -/
theorem fixed_once (h : (create contextPath source).run? schedule = some t) :
    let context := canonicalContextPath contextPath
    (Mount.create contextPath source).perform (t.log.map Effect.input) =
        (t.log.map Effect.answer, t.mount) ∧
      (∀ thread, callsOf thread schedule = t.doneBy thread ++ (t.progress thread).pending) ∧
      t.log.countP Effect.fixes ≤ 1 ∧
      (∀ before e after, t.log = before ++ e :: after →
        (∀ path, e.op = .fix path →
          (e.answer = .done ↔ ∀ e' ∈ before, e'.op.resolves = false)) ∧
        ((∀ e' ∈ before, e'.op.resolves = false) →
          let path := e.op.ownPath e.files source
          e.answer = e.op.firstAnswer context path ∧
            (e.op.resolves = true →
              t.mount.fixed = some path ∧
                ∀ later ∈ after, later.answer = later.op.answerAt context path))) ∧
      ((∀ e ∈ t.log, e.op.resolves = false) → t.mount.fixed = none) ∧
      t.mount.contextPath = context ∧
      (∀ more u, t.run? more = some u →
        t.log <+: u.log ∧ ∀ path, t.mount.fixed = some path → u.mount = t.mount) ∧
      ∀ files thread, CanFinish files t thread := by
  have hrun := (Explained.create contextPath source).run h
  have hfixed := hrun.fixed rfl
  refine ⟨hrun.history, fun thread => (opsOf_of_run h thread).symm, hrun.countP_fixes_le_one rfl,
    fun before e after hlog => ⟨fun path hop => hrun.fix_done_iff rfl hlog hop, fun hquiet => ?_⟩,
    fun hquiet => ?_, ?_,
    fun more u hmore => ⟨log_of_run hrun.coherent hmore, fun path hpath => ?_⟩,
    hrun.coherent.canFinish⟩
  · refine ⟨hrun.answer_first rfl hlog hquiet, fun hresolves => ⟨?_, fun later hlater => ?_⟩⟩
    · rw [hfixed, hlog]
      exact settled?_inputs_append_cons hquiet hresolves
    · exact hrun.answer_later rfl hlog hquiet hresolves hlater
  · rw [hfixed]
    exact settled?_inputs_eq_none_iff.mpr hquiet
  · have hmount := congrArg Prod.snd hrun.history
    rw [perform_snd rfl] at hmount
    exact congrArg Mount.contextPath hmount.symm
  · exact mount_of_run hrun.coherent hpath hmore

/-- The first thread looks at a descriptor that is stored only while it looks; the second one wants
to fix another path meanwhile, and the third one asks without waiting. -/
theorem fixed_once_descriptor :
    let stored := Storage.insert {} "web.xml" (.file (Utf8.ofString
      ("<web-app><filter-mapping><filter-name>app</filter-name>" ++
        "<url-pattern>/shop/*</url-pattern></filter-mapping></web-app>")) .epoch)
    let schedule := [({}, .call 1 (.redirect "/ctx/shop" "q")), ({}, .advance 1),
      ({}, .call 2 (.fix "other")), (stored, .advance 1), ({}, .call 3 .isResolved),
      ({}, .advance 3), ({}, .advance 1), ({}, .advance 2), ({}, .call 3 (.url "x")),
      ({}, .advance 3), ({}, .advance 2)]
    ∃ t, (create "ctx" (.descriptor .filter "app" "web.xml")).run? schedule = some t ∧
      t.log.map Effect.answer = [.flag false, .maybe (some "/ctx/shop/?q"), .text "/ctx/shop/x",
        .refused (.alreadyFixed "shop/")] ∧
      t.mount.fixed = some "shop/" ∧
      ∀ more u, t.run? more = some u → u.mount = t.mount := by
  intro stored schedule
  have hrun : ((create "ctx" (.descriptor .filter "app" "web.xml")).run? schedule).map
      (fun t => (t.log.map Effect.answer, t.mount.fixed)) =
      some ([.flag false, .maybe (some "/ctx/shop/?q"), .text "/ctx/shop/x",
        .refused (.alreadyFixed "shop/")], some "shop/") := by
    decide +kernel
  obtain ⟨t, ht, hresult⟩ := Option.map_eq_some_iff.mp hrun
  obtain ⟨hanswers, hpath⟩ := Prod.mk.inj hresult
  obtain ⟨-, -, -, -, -, -, hmore, -⟩ := fixed_once ht
  exact ⟨t, ht, hanswers, hpath, fun more u h => (hmore more u h).2 "shop/" hpath⟩

end SharedMount

end WebMount
