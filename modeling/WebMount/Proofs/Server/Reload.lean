import WebMount.Config.Validation
import WebMount.Proofs.Resource.Protocol
import WebMount.Proofs.Server.Agreement

/-!
# A new configuration while requests are in work

Both the default lifetime and the media types of a resource come from the settings that its request
has loaded, so a configuration that arrives in between is not seen, and a request is answered with
the settings of one configuration alone (`Service.answer_of_accepted`). Nothing but what settings
must have in common to agree is ever looked at: two services that differ in no more than settings
which agree make the same moves side by side (`Service.Agrees.run`) and give the same answers.

A configuration holds its media types in a map, which does not say in which order its entries are
registered. Runs whose configurations have the same maps give the same answers exactly if in each of
these maps the entries for one extension are sent alike; otherwise there is a resource whose answer
tells in which order they came (`Service.sentAlike_of_sameAnswers`).
-/

namespace WebMount

open WebMount.Response

namespace Service

/-! ### Services that agree -/

/-- Services that differ in no more than settings, which agree. -/
structure Agrees (u v : Service) : Prop where
  server : ∀ settings, { u.server with settings } = { v.server with settings }
  settings : u.server.settings.Agrees v.server.settings
  jobs : List.Forall₂ Job.Agrees u.jobs v.jobs

/-- Moves that are the same, but that what new configurations say about resources may differ as the
relation allows. -/
inductive Move.Alike (R : Config.Resources → Config.Resources → Prop) : Move → Move → Prop where
  | reload {c d : Config} (h : R c.resources d.resources) : Alike R (.reload c) (.reload d)
  | accept (request : Request) (freshId : String) :
    Alike R (.accept request freshId) (.accept request freshId)
  | advance (i : Nat) (step : Job.Step) : Alike R (.advance i step) (.advance i step)

/-- The same moves one after the other, with the same files stored, but that their configurations
may differ as the relation allows. -/
def MovesAlike (R : Config.Resources → Config.Resources → Prop) :
    List (Storage × Move) → List (Storage × Move) → Prop :=
  List.Forall₂ fun p q => p.1 = q.1 ∧ Move.Alike R p.2 q.2

/-- Whatever answers the first moves give, the second ones can be made and give the same. -/
def SameAnswers (u v : Service) (first second : List (Storage × Move)) : Prop :=
  ∀ t, u.run? first = some t → ∃ t', v.run? second = some t' ∧ ∀ i, t'.answer? i = t.answer? i

/-- The configuration that arrives with a move. -/
def Move.config? : Move → Option Config
  | .reload config => some config
  | _ => none

/-- The configurations that arrive. -/
def applied (moves : List (Storage × Move)) : List Config :=
  moves.filterMap fun (_, move) => move.config?

theorem MovesAlike.refl (moves : List (Storage × Move)) :
    MovesAlike (·.SameMap ·) moves moves := by
  refine List.forall₂_same.mpr fun p _ => ⟨rfl, ?_⟩
  cases p.2 with
  | reload c => exact .reload (.refl c.resources)
  | accept => exact .accept _ _
  | advance => exact .advance _ _

/-- Moves whose configurations have the same maps agree, if these are sent alike in any order. -/
theorem MovesAlike.agrees {moves others : List (Storage × Move)}
    (h : MovesAlike (·.SameMap ·) moves others)
    (halike : ∀ c ∈ applied moves, MediaTypes.SentAlike c.resources.mediaTypes) :
    MovesAlike (·.Agrees ·) moves others := by
  induction h with
  | nil => exact .nil
  | @cons p q moves others hmove _ ih =>
    obtain ⟨files, move⟩ := p
    obtain ⟨_, other⟩ := q
    obtain ⟨hfiles, hmove⟩ := hmove
    have happlied : applied ((files, move) :: moves) = move.config?.toList ++ applied moves := by
      cases move <;> rfl
    rw [happlied, List.forall_mem_append] at halike
    refine .cons ⟨hfiles, ?_⟩ (ih halike.2)
    cases hmove with
    | reload h => exact .reload (h.agrees (halike.1 _ List.mem_cons_self))
    | accept => exact .accept _ _
    | advance => exact .advance _ _

variable {files : Storage} {u v w : Service} {m n : Move}

theorem Agrees.start (s : Server) {c d : Config} (h : c.resources.Agrees d.resources) :
    (start s c).Agrees (start s d) :=
  ⟨fun _ => rfl, h.settings, .nil⟩

/-- **Services that agree make the same moves.** -/
theorem Agrees.move (h : u.Agrees v) (hmove : Move.Alike (·.Agrees ·) m n)
    (hstep : u.move? files m = some w) :
    ∃ x, v.move? files n = some x ∧ w.Agrees x := by
  cases hmove with
  | reload hresources =>
    obtain rfl := Option.some.inj hstep
    exact ⟨_, rfl, h.server, hresources.settings, h.jobs⟩
  | accept request freshId =>
    obtain rfl := Option.some.inj hstep
    refine ⟨_, rfl, fun settings => ?_, h.settings, ?_⟩
    · exact congrArg (fun s : Server => { s with mount := s.mount.resolve files })
        (h.server settings)
    · have hfind : v.server.find files request = u.server.find files request := by
        funext settings
        rw [Server.find, Server.find, h.server settings]
      refine List.rel_append h.jobs (.cons ⟨rfl, rfl, ?_⟩ .nil)
      rw [hfind]
      exact .found fun a b hab => u.server.find_agrees hab files request
  | advance i step =>
    cases moves_of_move? hstep with
    | @advance _ _ j next hjob hmakes =>
      have hrel := Job.Agrees.rel_getElem? h.jobs i
      rw [hjob] at hrel
      cases hk : v.jobs[i]? with
      | none =>
        rw [hk] at hrel
        cases hrel
      | some k =>
        rw [hk] at hrel
        cases hrel with
        | some hagrees =>
          obtain ⟨stage, hstage, hnext⟩ := hagrees.stage.next h.settings hmakes
          rw [hagrees.request, hagrees.freshId] at hstage
          have hafter : Job.Agrees { j with stage := next } { k with stage } :=
            ⟨hagrees.request, hagrees.freshId, hnext⟩
          refine ⟨{ v with jobs := v.jobs.set i { k with stage } }, ?_, h.server, h.settings,
            Job.Agrees.forall₂_set h.jobs hafter i⟩
          simp [move?, hk, Job.step?, hstage]

/-- **Services that agree run side by side.** -/
theorem Agrees.run {moves others : List (Storage × Move)} (h : u.Agrees v)
    (hmoves : MovesAlike (·.Agrees ·) moves others)
    (hrun : u.run? moves = some w) : ∃ x, v.run? others = some x ∧ w.Agrees x := by
  induction hmoves generalizing u v with
  | nil =>
    obtain rfl := Option.some.inj hrun
    exact ⟨v, rfl, h⟩
  | cons hmove _ ih =>
    obtain ⟨next, hnext, hrest⟩ := Option.bind_eq_some_iff.mp hrun
    obtain ⟨there, hthere, hagrees⟩ := h.move hmove.2 hnext
    obtain ⟨x, hx, hlast⟩ := ih hagrees hrest
    refine ⟨x, ?_, hlast⟩
    rw [run?, ← hmove.1, hthere]
    exact hx

/-- Services that agree have given the same answers. -/
theorem Agrees.answer?_eq (h : u.Agrees v) (i : Nat) : v.answer? i = u.answer? i := by
  have hrel := Job.Agrees.rel_getElem? h.jobs i
  rw [answer?, answer?]
  generalize u.jobs[i]? = first, v.jobs[i]? = second at hrel ⊢
  cases hrel with
  | none => rfl
  | @some j k hjob =>
    have hstage := hjob.stage
    rw [Option.map_some, Option.map_some]
    generalize j.stage = p, k.stage = q at hstage ⊢
    cases hstage <;> rfl

/-- Servers that begin with configurations which agree give the same answers. -/
theorem sameAnswers_of_agrees (s : Server) {c d : Config} (h : c.resources.Agrees d.resources)
    {moves others : List (Storage × Move)} (hmoves : MovesAlike (·.Agrees ·) moves others) :
    SameAnswers (start s c) (start s d) moves others := by
  intro t hrun
  obtain ⟨t', ht', hagrees⟩ := (Agrees.start s h).run hmoves hrun
  exact ⟨t', ht', hagrees.answer?_eq⟩

/-! ### What a new configuration changes -/

/-- **A request is answered with one configuration alone.** Every complete answer to a request is
the one that whoever was found for it when it arrived gives with the settings of the last
configuration that came before the request loaded its settings, and with the files that were stored
when it first went on. -/
theorem answer_of_accepted {s : Server} {config : Config} {before after : List (Storage × Move)}
    {files : Storage} {request : Request} {freshId : String} {t : Service} {answer : Answer}
    (hrun : (start s config).run? (before ++ (files, .accept request freshId) :: after) = some t)
    (hanswer : t.answer? (accepted before) = some answer) :
    ∃ (middle : List (Storage × Move)) (loading : Storage) (quiet : List (Storage × Move))
      (seen : Storage) (rest : List (Storage × Move)),
      after = middle ++ (loading, .advance (accepted before) .load) ::
        (quiet ++ (seen, .advance (accepted before) .proceed) :: rest) ∧
      (∀ g, (g, .advance (accepted before) .load) ∉ middle) ∧
      (∀ g, (g, .advance (accepted before) .proceed) ∉ quiet) ∧
      let snapshot := lastApplied config (before ++ (files, .accept request freshId) :: middle)
      let responder :=
        (serverAfter s config before).find files request (.ofConfig snapshot.resources)
      answer = (responder.answer seen request).sealed request freshId := by
  have hserver : ∀ {moves : List (Storage × Move)} {u : Service},
      (start s config).run? moves = some u → u.server = serverAfter s config moves :=
    fun h => server_of_run h rfl
  rw [run?_append] at hrun
  obtain ⟨u, hu, hafter⟩ := Option.bind_eq_some_iff.mp hrun
  obtain ⟨v, hv, hrest⟩ := Option.bind_eq_some_iff.mp hafter
  obtain rfl := Option.some.inj hv
  -- the request is the last one in work when it has arrived
  have hlast : u.jobs.length = accepted before := (length_jobs_of_run hu).trans (Nat.zero_add _)
  rw [← hlast] at hanswer ⊢
  obtain ⟨middle, loading, quiet, seen, rest, w, rfl, hmiddle, hquiet, hw, rfl⟩ :=
    answer_of_run hrest (List.getElem?_concat_length ..) rfl hanswer
  refine ⟨middle, loading, quiet, seen, rest, rfl, hmiddle, hquiet, ?_⟩
  -- and the run up to where it loads its settings says which these are
  have hloading : (start s config).run? (before ++ (files, .accept request freshId) :: middle) =
      some w := by
    rw [run?_append, hu]
    exact hw
  have hsettings := congrArg Server.settings (hserver hloading)
  dsimp only at hsettings ⊢
  rw [hsettings, hserver hu]
  rfl

/-! ### What tells orders apart -/

theorem lastApplied_of_applied {config : Config} {moves : List (Storage × Move)}
    (h : applied moves = []) : lastApplied config moves = config := by
  induction moves with
  | nil => rfl
  | cons p moves ih =>
    obtain ⟨files, move⟩ := p
    cases move with
    | reload c => exact absurd h (List.cons_ne_nil _ _)
    | accept => exact ih h
    | advance => exact ih h

theorem find_serverAfter_nil (s : Server) (config : Config) :
    (serverAfter s config []).find = s.find :=
  rfl

/-- A resource of a file name, with an empty body, which caches must not keep. -/
def named (fileName : String) : Resource :=
  .custom [.lifetime (.ofSeconds 0), .fileName fileName, .body []]

/-- A server that shares this resource. -/
def sharing (fileName : String) : Server :=
  ((Server.assemble {} .epoch).share ⟨"app", "named"⟩ (named fileName)).2

/-- A request for it. -/
def asking : Request :=
  { path := "/wicket/resource/app/named" }

theorem find_sharing (fileName : String) (files : Storage) (settings : ResourceSettings) :
    (sharing fileName).find files asking settings = .resource (named fileName) settings :=
  rfl

/-- What is sent for the resource tells the media type of the file name, if it can be sent. -/
theorem contentType_named (fileName : String) (files : Storage) (settings : ResourceSettings)
    (freshId : String) :
    ((Responder.answerOfResource files (named fileName) settings asking).sealed asking
        freshId).head.headers.get? "content-type" =
      (settings.mediaTypes.typeOf? fileName).filter Headers.isValue := by
  let d : Description :=
    { fileName := some fileName, lifetime := .ofSeconds 0, body := some [] }
  have hdates : d.DatesWritable asking :=
    ⟨⟨by decide, by decide⟩, nofun, fun hlifetime => absurd rfl hlifetime⟩
  have hmodified : ¬d.NotModified asking := by
    rintro ⟨since, modified, -, hnone, -⟩
    exact nomatch hnone
  have hrespond : (named fileName).respond files settings asking ({} : Response.Buffered) =
      (.ok (), d.started settings asking) :=
    Description.respond_of_body settings hdates hmodified rfl rfl
  have hshown : d.shownType? settings.mediaTypes = settings.mediaTypes.typeOf? fileName := by
    have hsame : ∀ mediaType : String, (if "text".toList <:+: mediaType.toList then mediaType ++ ""
        else mediaType) = mediaType := by
      intro mediaType
      rw [String.append_empty, ite_self]
    exact (congrArg (Option.map · _) (funext hsame)).trans Option.map_id'
  rw [Answer.get?_sealed _ _ _ (by decide), Responder.answerOfResource_of_ok hrespond, ← hshown]
  exact (Description.get?_contentFields d asking settings.mediaTypes).2.1

/-- So does every answer to the request in a run in which no other configuration arrives. -/
theorem contentType_of_run {fileName : String} {c : Config} {after : List (Storage × Move)}
    {t : Service} {answer : Answer} (hafter : applied after = [])
    (hrun : (start (sharing fileName) c).run? (({}, .accept asking "id") :: after) = some t)
    (hanswer : t.answer? 0 = some answer) :
    answer.head.headers.get? "content-type" =
      ((MediaTypes.ofList c.resources.mediaTypes).typeOf? fileName).filter Headers.isValue := by
  have hbegin : (start (sharing fileName) c).run? ([] ++ ({}, .accept asking "id") :: after) =
      some t := hrun
  obtain ⟨middle, loading, quiet, seen, rest, hsplit, -, -, hsealed⟩ :=
    answer_of_accepted hbegin hanswer
  have hmiddle : applied (({}, .accept asking "id") :: middle) = [] := by
    have hparts : applied middle ++ _ = [] := List.filterMap_append.symm.trans (hsplit ▸ hafter)
    exact (List.append_eq_nil_iff.mp hparts).1
  rw [List.nil_append, lastApplied_of_applied hmiddle] at hsealed
  rw [hsealed, find_serverAfter_nil, find_sharing]
  exact contentType_named fileName seen (.ofConfig c.resources) "id"

/-- **Configurations that answer alike in every order are sent alike.** -/
theorem sentAlike_of_sameAnswers {c : Config}
    (h : ∀ (s : Server) (d : Config) (moves : List (Storage × Move)), applied moves = [] →
      c.resources.SameMap d.resources →
        SameAnswers (start s c) (start s d) moves moves) :
    MediaTypes.SentAlike c.resources.mediaTypes := by
  intro a ha b hb hnames hextension
  obtain ⟨fileName, tail, htail, hname⟩ :=
    MediaTypes.isExtension_registeredName.mp hextension
  obtain ⟨steps, t, answer, hrun, hanswer⟩ :=
    exists_answer (start (sharing fileName) c) {} asking "id"
  let after : List (Storage × Move) := steps.map fun step => ({}, .advance 0 step)
  have hafter : applied after = [] := by
    refine List.filterMap_eq_nil_iff.mpr fun p hp => ?_
    obtain ⟨step, -, rfl⟩ := List.mem_map.mp hp
    rfl
  -- whichever of the entries for the file comes last, its media type is in the answer
  have hlast : ∀ e ∈ c.resources.mediaTypes,
      MediaTypes.registeredName a.1 = MediaTypes.registeredName e.1 →
        answer.head.headers.get? "content-type" = (some e.2).filter Headers.isValue := by
    intro e he hsame
    let d : Config :=
      { resources :=
        { c.resources with mediaTypes := c.resources.mediaTypes.erase e ++ [e] } }
    have hmap : c.resources.SameMap d.resources := ⟨rfl, (MediaTypes.perm_last he).symm⟩
    have htype : (MediaTypes.ofList d.resources.mediaTypes).typeOf? fileName = some e.2 :=
      MediaTypes.typeOf?_of_last htail (hname.trans hsame)
    obtain ⟨t', ht', hanswers⟩ :=
      h (sharing fileName) d (({}, .accept asking "id") :: after) hafter hmap t hrun
    rw [← htype]
    exact contentType_of_run hafter ht' ((hanswers 0).trans hanswer)
  exact MediaTypes.filter_isValue_eq_iff.mp ((hlast a ha rfl).symm.trans (hlast b hb hnames))

/-! ### What a new configuration may change -/

/-- **A new configuration counts as a whole, for the requests that load their settings behind it,
and changes nothing else.** After any run of a server that began with a configuration, the server is
as it was at first, but that its mount was resolved by the requests and that its settings are those
of the last configuration. Every complete answer to a request is the one that whoever was found for
it when it arrived gives with the settings of a single configuration, the last one that came before
the request loaded its settings, and with the files that were stored when it first went on. If all
the configurations are replaced by others that agree with them on the default lifetime and on what
is sent as the media types of files, then the same moves can be made, and all answers are the same.
To have the same default lifetime and the same map of media types is not enough for that: whatever
configurations are known, the runs with them and those with the same maps give the same answers
exactly if in the map of each of them the entries for one extension are sent alike. -/
theorem reload_atomic (s : Server) (config : Config) {schedule : List (Storage × Move)}
    {t : Service} (hrun : (start s config).run? schedule = some t) :
    t.server = serverAfter s config schedule ∧
    t.jobs.length = accepted schedule ∧
    (∀ (before : List (Storage × Move)) (files : Storage) (request : Request) (freshId : String)
        (after : List (Storage × Move)) (answer : Answer),
      schedule = before ++ (files, .accept request freshId) :: after →
      t.answer? (accepted before) = some answer →
      ∃ (middle : List (Storage × Move)) (loading : Storage) (quiet : List (Storage × Move))
        (seen : Storage) (rest : List (Storage × Move)),
        after = middle ++ (loading, .advance (accepted before) .load) ::
          (quiet ++ (seen, .advance (accepted before) .proceed) :: rest) ∧
        (∀ g, (g, .advance (accepted before) .load) ∉ middle) ∧
        (∀ g, (g, .advance (accepted before) .proceed) ∉ quiet) ∧
        let snapshot := lastApplied config (before ++ (files, .accept request freshId) :: middle)
        let responder :=
          (serverAfter s config before).find files request (.ofConfig snapshot.resources)
        answer = (responder.answer seen request).sealed request freshId) ∧
    (∀ (other : Config) (schedule' : List (Storage × Move)),
      config.resources.Agrees other.resources → MovesAlike (·.Agrees ·) schedule schedule' →
      ∃ t', (start s other).run? schedule' = some t' ∧ ∀ i, t'.answer? i = t.answer? i) ∧
    ∀ known : Config → Prop,
      (∀ (s : Server) (c d : Config) (moves others : List (Storage × Move)),
        (∀ used ∈ c :: applied moves, known used) → c.resources.SameMap d.resources →
        MovesAlike (·.SameMap ·) moves others →
        SameAnswers (start s c) (start s d) moves others) ↔
      ∀ c, known c → MediaTypes.SentAlike c.resources.mediaTypes := by
  refine ⟨server_of_run hrun rfl, (length_jobs_of_run hrun).trans (Nat.zero_add _), ?_, ?_, ?_⟩
  · intro before files request freshId after answer hschedule hanswer
    rw [hschedule] at hrun
    exact answer_of_accepted hrun hanswer
  · exact fun other schedule' hagrees hmoves => sameAnswers_of_agrees s hagrees hmoves t hrun
  · intro known
    constructor
    · intro h c hc
      refine sentAlike_of_sameAnswers fun s d moves happlied hmap => ?_
      have hused : ∀ used ∈ c :: applied moves, known used := by
        rw [happlied]
        exact fun used hmem => List.mem_singleton.mp hmem ▸ hc
      exact h s c d moves moves hused hmap (MovesAlike.refl moves)
    · intro h s c d moves others hused hmap hmoves
      rw [List.forall_mem_cons] at hused
      exact sameAnswers_of_agrees s (hmap.agrees (h c hused.1))
        (hmoves.agrees fun used hmem => h used (hused.2 used hmem))

/-- A file is asked for, and a second configuration arrives before the settings are loaded, and a
third one while the file is being sent. Its lifetime and its media type are those of the second one,
and neither what else that one says nor the order of its media types makes a difference. -/
theorem reload_atomic_between :
    let describing (seconds : Nat) (mediaType : String) : Config :=
      { resources :=
        { lifetimeSeconds := seconds
          mediaTypes := [("txt", mediaType), ("md", "text/markdown")] } }
    let s := Server.assemble
      { resources := { files := [{ name := "a.txt", path := "docs/a.txt" }] } } .epoch
    let stored := Storage.insert {} "docs/a.txt" (.file [104, 105] .epoch)
    let advance (step : Job.Step) : Storage × Move := (stored, .advance 0 step)
    let loading (c : Config) : List (Storage × Move) :=
      [(stored, .accept { path := "/wicket/resource/app/a.txt" } "id"), (stored, .reload c),
        advance .load]
    let sending : List (Storage × Move) :=
      advance .proceed :: advance .proceed :: (stored, .reload (describing 180 "text/x-third")) ::
        (List.replicate 13 (advance (.deliver .write)) ++
          (List.replicate 3 (advance (.deliver .take)) ++ [advance .proceed]))
    ∃ (t : Service) (answer : Answer),
      (start s (describing 60 "text/x-first")).run?
        (loading (describing 120 "text/x-second") ++ sending) = some t ∧
      t.answer? 0 = some answer ∧
      answer.head.headers.get? "cache-control" = some "private, max-age=120" ∧
      answer.head.headers.get? "content-type" = some "text/x-second" ∧ answer.body = [104, 105] ∧
      t.server.resources = s.resources ∧
      ∀ c : Config, (describing 120 "text/x-second").resources.SameMap c.resources →
        ∃ t', (start s (describing 60 "text/x-first")).run? (loading c ++ sending) = some t' ∧
          t'.answer? 0 = some answer := by
  intro describing s stored advance loading sending
  have hrun : ((start s (describing 60 "text/x-first")).run?
      (loading (describing 120 "text/x-second") ++ sending)).map
        (fun t => (t.answer? 0).map fun a =>
          (a.head.headers.get? "cache-control", a.head.headers.get? "content-type", a.body)) =
      some (some (some "private, max-age=120", some "text/x-second", [104, 105])) := by
    decide +kernel
  obtain ⟨t, ht, hresult⟩ := Option.map_eq_some_iff.mp hrun
  obtain ⟨answer, hanswer, hfields⟩ := Option.map_eq_some_iff.mp hresult
  simp only [Prod.mk.injEq] at hfields
  obtain ⟨hcaching, htype, hbody⟩ := hfields
  obtain ⟨hserver, -, -, -, horders⟩ := reload_atomic s _ ht
  refine ⟨t, answer, ht, hanswer, hcaching, htype, hbody, ?_, fun c hc => ?_⟩
  · rw [hserver]
    rfl
  · -- each of the configurations has two entries, which stand for two extensions
    have hdiffer : MediaTypes.registeredName "txt" ≠ MediaTypes.registeredName "md" := by decide
    have halike : ∀ used, (∃ seconds mediaType, used = describing seconds mediaType) →
        MediaTypes.SentAlike used.resources.mediaTypes := by
      rintro _ ⟨seconds, mediaType, rfl⟩ a ha b hb hnames -
      simp only [describing, List.mem_cons, List.not_mem_nil, or_false] at ha hb
      rcases ha with rfl | rfl <;> rcases hb with rfl | rfl
      · exact .inl rfl
      · exact absurd hnames hdiffer
      · exact absurd hnames.symm hdiffer
      · exact .inl rfl
    have hused : ∀ used ∈ describing 60 "text/x-first" ::
        applied (loading (describing 120 "text/x-second") ++ sending),
        ∃ seconds mediaType, used = describing seconds mediaType := by
      have happlied : applied (loading (describing 120 "text/x-second") ++ sending) =
          [describing 120 "text/x-second", describing 180 "text/x-third"] := rfl
      rw [happlied]
      simp only [List.forall_mem_cons]
      exact ⟨⟨_, _, rfl⟩, ⟨_, _, rfl⟩, ⟨_, _, rfl⟩, List.forall_mem_nil _⟩
    have hmoves : MovesAlike (·.SameMap ·) (loading (describing 120 "text/x-second") ++ sending)
        (loading c ++ sending) :=
      .cons ⟨rfl, .accept _ _⟩ (.cons ⟨rfl, .reload hc⟩ (MovesAlike.refl _))
    obtain ⟨t', ht', hsame⟩ :=
      (horders _).mpr halike s _ _ _ _ hused (.refl _) hmoves t ht
    exact ⟨t', ht', (hsame 0).trans hanswer⟩

/-- The extension `gif` with a dot in front and without one: two accepted configurations with the
same map, whose entries come in two orders, and an image is answered with two media types. -/
theorem not_sameAnswers_gif :
    let entries := [("gif", "image/gif"), (".gif", "image/x-special")]
    let listing (entries : List (String × String)) : Config :=
      { resources := { mediaTypes := entries } }
    let steps : List Job.Step := [.load, .proceed, .proceed] ++
      List.replicate 9 (.deliver .write) ++ List.replicate 2 (.deliver .take) ++ [.proceed]
    let moves : List (Storage × Move) :=
      ({}, .accept asking "id") :: steps.map fun step => ({}, .advance 0 step)
    (entries.map Prod.fst).Nodup ∧ (listing entries).findings = [] ∧
    (listing entries).resources.SameMap (listing entries.reverse).resources ∧
    MovesAlike (·.SameMap ·) moves moves ∧
    ¬SameAnswers (start (sharing "x.gif") (listing entries))
      (start (sharing "x.gif") (listing entries.reverse)) moves moves := by
  intro entries listing steps moves
  have hfirst : ((start (sharing "x.gif") (listing entries)).run? moves).map
      (fun t => (t.answer? 0).map fun a => a.head.headers.get? "content-type") =
        some (some (some "image/x-special")) := by
    decide +kernel
  have hsecond : ((start (sharing "x.gif") (listing entries.reverse)).run? moves).map
      (fun t => (t.answer? 0).map fun a => a.head.headers.get? "content-type") =
        some (some (some "image/gif")) := by
    decide +kernel
  refine ⟨by decide, by decide +kernel, ⟨rfl, (List.reverse_perm entries).symm⟩,
    MovesAlike.refl moves, fun h => ?_⟩
  obtain ⟨t, ht, htype⟩ := Option.map_eq_some_iff.mp hfirst
  obtain ⟨t', ht', hsame⟩ := h t ht
  rw [ht', Option.map_some, hsame 0, htype] at hsecond
  exact absurd hsecond (by decide)

end Service

end WebMount
