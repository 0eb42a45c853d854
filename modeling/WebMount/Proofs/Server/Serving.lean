import WebMount.Proofs.Server.Outcome
import WebMount.Server.Serving

/-!
# What becomes of a request that is served among others

A step of a request does one of six things (`Job.Stage.Makes`), and a move of a service does one of
three: a new configuration arrives, a request arrives, or a request in work makes a step
(`Service.Moves`). Of the server itself, moves change the mount, where requests look for the filter
path, and the settings, which are those of the last configuration (`server_of_run`). A request
waits until it makes a step (`wait_of_run`): first to load its settings, and then to look at the
files. From then on it is on the way to one answer, that of the responder with these settings and
these files (`Job.Stage.Toward`), and no move of the others leads it astray (`toward_of_run`). By
steps of its own every request comes to its answer (`exists_answer`).
-/

namespace WebMount

open WebMount.Response

/-- A run of a delivery that makes one more move. -/
theorem Delivery.run?_concat {d e f : Delivery} {moves : List Delivery.Move} {m : Delivery.Move}
    (hrun : d.run? moves = some e) (hmove : e.move? m = some f) :
    d.run? (moves ++ [m]) = some f := by
  induction moves generalizing d with
  | nil =>
    obtain rfl := Option.some.inj hrun
    simp [run?, hmove]
  | cons first moves ih =>
    obtain ⟨next, hfirst, hrest⟩ := Option.bind_eq_some_iff.mp hrun
    rw [List.cons_append, run?, hfirst]
    exact ih hrest

/-! ### Sealed answers -/

namespace Answer

/-- The id of the request and the method do not change the status. -/
theorem status_sealed (answer : Answer) (request : Request) (freshId : String) :
    (answer.sealed request freshId).head.status = answer.head.status := by
  rw [Answer.sealed, head_forMethod, withRequestId]
  split <;> rfl

/-- They change no field but that of the id. -/
theorem get?_sealed (answer : Answer) (request : Request) (freshId : String) {name : String}
    (hname : Headers.canonicalName name ≠ Headers.canonicalName requestIdField) :
    (answer.sealed request freshId).head.headers.get? name = answer.head.headers.get? name := by
  rw [Answer.sealed, head_forMethod, withRequestId]
  split
  · rfl
  · exact (Headers.get?_set ..).trans (if_neg hname)

end Answer

namespace Job.Stage

variable {settings : ResourceSettings} {files : Storage} {request : Request} {freshId : String}

/-! ### What a step does -/

/-- What a step of a request can do. -/
inductive Makes (settings : ResourceSettings) (files : Storage) (request : Request)
    (freshId : String) : Stage → Step → Stage → Prop where
  | load {responder : ResourceSettings → Responder} :
    Makes settings files request freshId (found responder) .load (loaded (responder settings))
  | describe {r : Resource} {own : ResourceSettings} :
    Makes settings files request freshId (loaded (.resource r own)) .proceed
      (described own (r.describe files own request))
  /-- Whoever is not a resource answers at once. -/
  | reply {responder : Responder} (hother : ∀ r own, responder ≠ .resource r own) :
    Makes settings files request freshId (loaded responder) .proceed
      (answered ((responder.answer files request).sealed request freshId))
  | deliver {own : ResourceSettings} {description : Except Crash Description} :
    Makes settings files request freshId (described own description) .proceed
      (delivering (.start chunksInFlight (Description.scriptOf own request description)))
  | move {d e : Delivery} {m : Delivery.Move} (hmove : d.move? m = some e) :
    Makes settings files request freshId (delivering d) (.deliver m) (delivering e)
  | finish {d : Delivery} (hfinished : d.link.receiver = .finished) :
    Makes settings files request freshId (delivering d) .proceed
      (answered ((Answer.ofArrivals d.link.arrivals).sealed request freshId))

/-- **A step does one of these things.** -/
theorem makes_of_next? {stage next : Stage} {step : Step}
    (h : stage.next? settings files request freshId step = some next) :
    Makes settings files request freshId stage step next := by
  unfold next? at h
  split at h
  · obtain rfl := Option.some.inj h
    exact .load
  · obtain rfl := Option.some.inj h
    exact .describe
  · next hother =>
    obtain rfl := Option.some.inj h
    exact .reply hother
  · obtain rfl := Option.some.inj h
    exact .deliver
  · split at h
    · next hfinished =>
      obtain rfl := Option.some.inj h
      exact .finish hfinished
    · exact absurd h (by simp)
  · obtain ⟨e, hmove, rfl⟩ := Option.map_eq_some_iff.mp h
    exact .move hmove
  · exact absurd h (by simp)

/-! ### The way to an answer -/

/-- The stage is one on the way to the answer that a responder gives with the files that it saw. -/
inductive Toward (responder : Responder) (seen : Storage) (request : Request) (freshId : String) :
    Stage → Prop where
  | described {r : Resource} {own : ResourceSettings} (hresponder : responder = .resource r own) :
    Toward responder seen request freshId (described own (r.describe seen own request))
  | delivering {r : Resource} {own : ResourceSettings} {d : Delivery} {moves : List Delivery.Move}
    (hresponder : responder = .resource r own)
    (hrun : (Delivery.start chunksInFlight (r.script seen own request)).run? moves = some d) :
    Toward responder seen request freshId (delivering d)
  | answered : Toward responder seen request freshId
      (answered ((responder.answer seen request).sealed request freshId))

variable {responder : Responder} {seen : Storage} {stage later : Stage} {step : Step}

/-- A request for which it is found out who answers can only load the settings. -/
theorem Makes.step_eq_load {responder : ResourceSettings → Responder}
    (h : Makes settings files request freshId (found responder) step later) : step = .load := by
  cases h
  rfl

/-- With its settings loaded, a request can only go on. -/
theorem Makes.step_eq_proceed
    (h : Makes settings files request freshId (loaded responder) step later) :
    step = .proceed := by
  cases h <;> rfl

/-- Whoever answers sets out toward the answer with the files of the moment. -/
theorem Makes.toward (h : Makes settings files request freshId (loaded responder) step later) :
    Toward responder files request freshId later := by
  cases h with
  | describe => exact .described rfl
  | reply => exact .answered

/-- The program of a resource is that of its description. -/
theorem scriptOf_describe (r : Resource) (seen : Storage) (own : ResourceSettings)
    (request : Request) :
    Description.scriptOf own request (r.describe seen own request) =
      r.script seen own request := by
  rw [Resource.script]
  cases r.describe seen own request <;> rfl

/-- **Each step leads on toward the answer.** Neither the settings of the server nor the files at
its time matter any more. -/
theorem Toward.next (h : Toward responder seen request freshId stage)
    (hstep : Makes settings files request freshId stage step later) :
    Toward responder seen request freshId later := by
  cases hstep with
  | load => cases h
  | describe => cases h
  | reply => cases h
  | deliver =>
    cases h with
    | described hresponder =>
      rw [scriptOf_describe]
      have hrun (d : Delivery) : d.run? [] = some d := rfl
      exact .delivering hresponder (hrun _)
  | move hmove =>
    cases h with
    | delivering hresponder hrun =>
      exact .delivering hresponder (Delivery.run?_concat hrun hmove)
  | finish hfinished =>
    cases h with
    | delivering hresponder hrun =>
      rw [Delivery.answer_of_run _ _ _ _ hrun hfinished]
      subst hresponder
      exact .answered

end Job.Stage

namespace Service

variable {files : Storage} {s t u v : Service} {move : Move} {moves : List (Storage × Move)}
  {i : Nat} {j : Job} {c : Config}

/-! ### What a move does -/

/-- What a move of a service can do. -/
inductive Moves (files : Storage) (s : Service) : Move → Service → Prop where
  | reload (config : Config) :
    Moves files s (.reload config) { s with server := s.server.reload config }
  | accept (request : Request) (freshId : String) :
    Moves files s (.accept request freshId)
      { server := (s.server.dispatch files request).2
        jobs := s.jobs ++ [⟨request, freshId, .found (s.server.find files request)⟩] }
  | advance {i : Nat} {step : Job.Step} {job : Job} {next : Job.Stage}
    (hjob : s.jobs[i]? = some job)
    (hstep : Job.Stage.Makes s.server.settings files job.request job.freshId job.stage step next) :
    Moves files s (.advance i step) { s with jobs := s.jobs.set i { job with stage := next } }

/-- **A move does one of these things.** -/
theorem moves_of_move? (h : s.move? files move = some t) : Moves files s move t := by
  cases move with
  | reload config =>
    obtain rfl := Option.some.inj h
    exact .reload config
  | accept request freshId =>
    obtain rfl := Option.some.inj h
    exact .accept request freshId
  | advance i step =>
    simp only [move?, Option.bind_eq_bind, Option.bind_eq_some_iff] at h
    obtain ⟨job, hjob, after, hstep, ht⟩ := h
    obtain ⟨next, hnext, rfl⟩ := Option.map_eq_some_iff.mp hstep
    obtain rfl := Option.some.inj ht
    exact .advance hjob (Job.Stage.makes_of_next? hnext)

theorem run?_append (s : Service) (first second : List (Storage × Move)) :
    s.run? (first ++ second) = (s.run? first).bind fun t => t.run? second := by
  induction first generalizing s with
  | nil => rfl
  | cons p first ih =>
    rw [List.cons_append, run?, run?, Option.bind_assoc]
    exact congrArg _ (funext fun t => ih t)

/-! ### What moves change of the server -/

theorem serverAfter_cons (s : Server) (c : Config) (p : Storage × Move)
    (moves : List (Storage × Move)) :
    serverAfter s c (p :: moves) = serverAfter (serverAfter s c [p]) (lastApplied c [p]) moves := by
  obtain ⟨files, move⟩ := p
  cases move <;> rfl

/-- One move changes no more of the server than its mount and its settings. -/
theorem Moves.server (h : Moves files s move t)
    (hsettings : s.server.settings = .ofConfig c.resources) :
    t.server = serverAfter s.server c [(files, move)] := by
  cases h with
  | reload config => rfl
  | accept request freshId =>
    have hsame : serverAfter s.server c [(files, .accept request freshId)] =
        { s.server with
          mount := s.server.mount.resolve files, settings := .ofConfig c.resources } := rfl
    rw [hsame, ← hsettings]
    rfl
  | @advance i step =>
    have hsame : serverAfter s.server c [(files, .advance i step)] =
        { s.server with settings := .ofConfig c.resources } := rfl
    rw [hsame, ← hsettings]

/-- **What a run changes of the server.** A new configuration changes the settings for resources, a
request lets the mount look for the filter path, and everything else stays as it was. -/
theorem server_of_run (h : s.run? moves = some t)
    (hsettings : s.server.settings = .ofConfig c.resources) :
    t.server = serverAfter s.server c moves := by
  induction moves generalizing s c with
  | nil =>
    obtain rfl := Option.some.inj h
    have hsame : serverAfter s.server c [] = { s.server with settings := .ofConfig c.resources } :=
      rfl
    rw [hsame, ← hsettings]
  | cons p moves ih =>
    obtain ⟨u, hmove, hrest⟩ := Option.bind_eq_some_iff.mp h
    have hserver := (moves_of_move? hmove).server hsettings
    rw [serverAfter_cons, ← hserver]
    exact ih hrest (congrArg Server.settings hserver)

/-- The requests that arrived are in work, in order. -/
theorem length_jobs_of_run (h : s.run? moves = some t) :
    t.jobs.length = s.jobs.length + accepted moves := by
  induction moves generalizing s with
  | nil =>
    obtain rfl := Option.some.inj h
    rfl
  | cons p moves ih =>
    obtain ⟨u, hmove, hrest⟩ := Option.bind_eq_some_iff.mp h
    rw [ih hrest]
    simp only [accepted, List.countP_cons]
    obtain ⟨files, move⟩ := p
    cases moves_of_move? hmove with
    | reload => simp [Move.isAccept]
    | accept => simp [Move.isAccept, Nat.add_assoc, Nat.add_comm]
    | advance => simp [Move.isAccept]

/-! ### What becomes of one request -/

/-- A move leaves a request in work as it is, or makes a step of it. -/
theorem Moves.job (h : Moves files s move t) (hjob : s.jobs[i]? = some j) :
    ((∀ step, move ≠ .advance i step) ∧ t.jobs[i]? = some j) ∨
    ∃ step next, move = .advance i step ∧
      Job.Stage.Makes s.server.settings files j.request j.freshId j.stage step next ∧
      t.jobs[i]? = some { j with stage := next } := by
  have hi : i < s.jobs.length := (List.getElem?_eq_some_iff.mp hjob).1
  cases h with
  | reload => exact .inl ⟨fun _ => nofun, hjob⟩
  | accept => exact .inl ⟨fun _ => nofun, (List.getElem?_append_left hi).trans hjob⟩
  | @advance k step other next hother hstep =>
    by_cases hk : k = i
    · subst hk
      obtain rfl : other = j := Option.some.inj (hother.symm.trans hjob)
      exact .inr ⟨step, next, rfl, hstep, List.getElem?_set_self hi⟩
    · refine .inl ⟨fun step hmove => hk (Move.advance.inj hmove).1, ?_⟩
      exact (List.getElem?_set_ne hk).trans hjob

/-- **A request waits until it makes a step.** If no step but one can be made of it, then it stays
as it is up to the first move of that step. -/
theorem wait_of_run {ready : Job.Step} (h : s.run? moves = some t) (hjob : s.jobs[i]? = some j)
    (hready : ∀ settings files step next,
      Job.Stage.Makes settings files j.request j.freshId j.stage step next → step = ready) :
    t.jobs[i]? = some j ∨
    ∃ (middle : List (Storage × Move)) (files : Storage) (rest : List (Storage × Move))
      (next : Job.Stage) (u v : Service),
      moves = middle ++ (files, .advance i ready) :: rest ∧
      (∀ g, (g, .advance i ready) ∉ middle) ∧ s.run? middle = some u ∧
      Job.Stage.Makes u.server.settings files j.request j.freshId j.stage ready next ∧
      v.jobs[i]? = some { j with stage := next } ∧ v.run? rest = some t := by
  induction moves generalizing s with
  | nil =>
    obtain rfl := Option.some.inj h
    exact .inl hjob
  | cons p moves ih =>
    obtain ⟨w, hmove, hrest⟩ := Option.bind_eq_some_iff.mp h
    obtain ⟨files, move⟩ := p
    obtain ⟨hothers, hsame⟩ | ⟨step, next, rfl, hstep, hnext⟩ :=
      (moves_of_move? hmove).job hjob
    · obtain hwaiting | ⟨middle, later, rest, next, u, v, rfl, hmiddle, hu, hstep, hv, ht⟩ :=
        ih hrest hsame
      · exact .inl hwaiting
      · refine .inr ⟨(files, move) :: middle, later, rest, next, u, v, rfl, fun g hmem => ?_, ?_,
          hstep, hv, ht⟩
        · obtain heq | hmem := List.mem_cons.mp hmem
          · exact hothers _ (Prod.ext_iff.mp heq).2.symm
          · exact hmiddle g hmem
        · rw [run?, hmove]
          exact hu
    · obtain rfl := hready _ _ _ _ hstep
      exact .inr ⟨[], files, moves, next, s, w, rfl, fun _ => List.not_mem_nil, rfl, hstep, hnext,
        hrest⟩

/-- **A request that is on the way to its answer stays on it**, whatever the others do and whatever
configurations arrive. -/
theorem toward_of_run {responder : Responder} {seen : Storage} (h : s.run? moves = some t)
    (hjob : s.jobs[i]? = some j)
    (htoward : j.stage.Toward responder seen j.request j.freshId) :
    ∃ stage, t.jobs[i]? = some { j with stage } ∧
      stage.Toward responder seen j.request j.freshId := by
  induction moves generalizing s j with
  | nil =>
    obtain rfl := Option.some.inj h
    exact ⟨j.stage, hjob, htoward⟩
  | cons p moves ih =>
    obtain ⟨u, hmove, hrest⟩ := Option.bind_eq_some_iff.mp h
    obtain ⟨-, hsame⟩ | ⟨step, next, -, hstep, hnext⟩ := (moves_of_move? hmove).job hjob
    · exact ih hrest hsame htoward
    · exact ih (j := { j with stage := next }) hrest hnext (htoward.next hstep)

/-! ### The answer to a request -/

theorem answer?_eq_some_iff {answer : Answer} :
    s.answer? i = some answer ↔ ∃ j, s.jobs[i]? = some j ∧ j.stage = .answered answer := by
  rw [answer?]
  cases hjob : s.jobs[i]? with
  | none => simp
  | some j => cases hstage : j.stage <;> simp [hstage]

/-- **A request is answered with the settings that it loads**, and with the files that are stored
when it goes on behind that, whatever happens in between and afterwards. -/
theorem answer_of_run {responder : ResourceSettings → Responder} {answer : Answer}
    (h : s.run? moves = some t) (hjob : s.jobs[i]? = some j) (hfound : j.stage = .found responder)
    (hanswer : t.answer? i = some answer) :
    ∃ (middle : List (Storage × Move)) (loading : Storage) (quiet : List (Storage × Move))
      (seen : Storage) (rest : List (Storage × Move)) (u : Service),
      moves = middle ++ (loading, .advance i .load) ::
        (quiet ++ (seen, .advance i .proceed) :: rest) ∧
      (∀ g, (g, .advance i .load) ∉ middle) ∧ (∀ g, (g, .advance i .proceed) ∉ quiet) ∧
      s.run? middle = some u ∧
      answer =
        ((responder u.server.settings).answer seen j.request).sealed j.request j.freshId := by
  obtain ⟨last, hlast, hstage⟩ := answer?_eq_some_iff.mp hanswer
  obtain hwaiting | ⟨middle, loading, after, next, u, v, rfl, hmiddle, hu, hload, hv, ht⟩ :=
    wait_of_run h hjob fun _ _ _ _ hstep => (hfound ▸ hstep).step_eq_load
  · -- it never loads its settings
    obtain rfl : last = j := Option.some.inj (hlast.symm.trans hwaiting)
    exact nomatch hstage.symm.trans hfound
  rw [hfound] at hload
  cases hload
  obtain hwaiting | ⟨quiet, seen, rest, next, _, w, rfl, hquiet, -, hstep, hw, ht⟩ :=
    wait_of_run ht hv fun _ _ _ _ hstep => hstep.step_eq_proceed
  · -- it never goes on
    obtain rfl := Option.some.inj (hlast.symm.trans hwaiting)
    exact nomatch hstage
  obtain ⟨stage, htjob, htoward⟩ := toward_of_run ht hw hstep.toward
  obtain rfl := Option.some.inj (hlast.symm.trans htjob)
  obtain rfl : stage = .answered answer := hstage
  refine ⟨middle, loading, quiet, seen, rest, u, rfl, hmiddle, hquiet, hu, ?_⟩
  cases htoward
  rfl

/-- A request that is served with nothing in between gets the same answer. -/
theorem respond_eq (s : Server) (files : Storage) (freshId : String) (request : Request) :
    (s.respond files freshId request).1 =
      ((s.find files request s.settings).answer files request).sealed request freshId := by
  rw [Server.respond, Answer.sealed, Server.find]

/-! ### Every request can be answered -/

/-- A request at this stage can be brought to its answer in whatever service it is in work, with the
same files stored at all times. -/
def CanAnswer (files : Storage) (request : Request) (freshId : String) (stage : Job.Stage) : Prop :=
  ∀ (s : Service) (i : Nat), s.jobs[i]? = some ⟨request, freshId, stage⟩ →
    ∃ (steps : List Job.Step) (t : Service) (answer : Answer),
      s.run? (steps.map fun step => (files, .advance i step)) = some t ∧ t.answer? i = some answer

section

variable {request : Request} {freshId : String} {stage : Job.Stage}

/-- A request can be answered if it can make a step behind which it can be. -/
theorem CanAnswer.of_next (step : Job.Step)
    (h : ∀ settings, ∃ next, stage.next? settings files request freshId step = some next ∧
      CanAnswer files request freshId next) : CanAnswer files request freshId stage := by
  intro s i hjob
  obtain ⟨next, hnext, hcan⟩ := h s.server.settings
  have hi : i < s.jobs.length := (List.getElem?_eq_some_iff.mp hjob).1
  have hmove : s.move? files (.advance i step) =
      some { s with jobs := s.jobs.set i ⟨request, freshId, next⟩ } := by
    simp [move?, hjob, Job.step?, hnext]
  obtain ⟨steps, t, answer, hrun, hanswer⟩ :=
    hcan { s with jobs := s.jobs.set i ⟨request, freshId, next⟩ } i (List.getElem?_set_self hi)
  refine ⟨step :: steps, t, answer, ?_, hanswer⟩
  rw [List.map_cons, run?, hmove]
  exact hrun

theorem canAnswer_answered (answer : Answer) :
    CanAnswer files request freshId (.answered answer) :=
  fun s _ hjob => ⟨[], s, answer, rfl, answer?_eq_some_iff.mpr ⟨_, hjob, rfl⟩⟩

/-- The answer of a resource is complete when its receiver is done. -/
theorem canAnswer_delivering {d e : Delivery} {moves : List Delivery.Move}
    (hrun : d.run? moves = some e) (hfinished : e.link.receiver = .finished) :
    CanAnswer files request freshId (.delivering d) := by
  induction moves generalizing d with
  | nil =>
    obtain rfl := Option.some.inj hrun
    let answer := (Answer.ofArrivals d.link.arrivals).sealed request freshId
    have hlast : ∀ settings, Job.Stage.next? settings files request freshId (.delivering d)
        .proceed = some (.answered answer) := by
      intro settings
      rw [Job.Stage.next?, hfinished]
    exact .of_next .proceed fun settings => ⟨_, hlast settings, canAnswer_answered _⟩
  | cons m moves ih =>
    obtain ⟨next, hmove, hrest⟩ := Option.bind_eq_some_iff.mp hrun
    refine .of_next (.deliver m) fun _ => ⟨.delivering next, ?_, ih hrest⟩
    rw [Job.Stage.next?, hmove]
    rfl

theorem canAnswer_described (own : ResourceSettings) (description : Except Crash Description) :
    CanAnswer files request freshId (.described own description) := by
  let script := Description.scriptOf own request description
  have hthere : (Delivery.start chunksInFlight script).link.receiver ≠ .gone := nofun
  obtain ⟨moves, e, hrun, hfinished⟩ :=
    (Delivery.Faithful.start chunksInFlight script).exists_finished hthere
  exact .of_next .proceed fun _ => ⟨_, rfl, canAnswer_delivering hrun hfinished⟩

theorem canAnswer_loaded (responder : Responder) :
    CanAnswer files request freshId (.loaded responder) := by
  cases responder with
  | resource r own =>
    exact .of_next .proceed fun _ => ⟨_, rfl, canAnswer_described _ _⟩
  | redirect | nobody | suggestions =>
    exact .of_next .proceed fun _ => ⟨_, rfl, canAnswer_answered _⟩

theorem canAnswer_found (responder : ResourceSettings → Responder) :
    CanAnswer files request freshId (.found responder) :=
  .of_next .load fun _ => ⟨_, rfl, canAnswer_loaded _⟩

end

/-- **Every request can be answered**, by steps of its own, whatever else is in work. -/
theorem exists_answer (s : Service) (files : Storage) (request : Request) (freshId : String) :
    ∃ (steps : List Job.Step) (t : Service) (answer : Answer),
      s.run? ((files, .accept request freshId) ::
        steps.map fun step => (files, .advance s.jobs.length step)) = some t ∧
      t.answer? s.jobs.length = some answer :=
  canAnswer_found _ _ _ (List.getElem?_concat_length ..)

end Service

end WebMount
