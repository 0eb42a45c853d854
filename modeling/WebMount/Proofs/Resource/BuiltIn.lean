import WebMount.Proofs.Resource.Revalidation
import WebMount.Proofs.Response.Transfer
import WebMount.Resource.BuiltIn

/-!
# Built-in resources answer completely

A resource decides whether it installs a body, and the answer decides again whether one is needed.
Both go by the same condition (`needsData_eq_true`), so a body is there whenever it is needed, and
it writes exactly the bytes whose number was announced (`Delivers`). Each kind of resource is
described so (`describes_bytes`, `describes_file`, `describes_image`), and every description of
this form is answered completely (`respond_complete`).
-/

namespace WebMount

open WebMount.Response WebMount.Time

namespace Description

/-! ### Fields in every exit -/

/-- **The fields about caching and modification are the same in every exit of an answer.** -/
theorem get?_common_of_respond {d : Description} {request : Request} (settings : ResourceSettings)
    (h : d.DatesWritable request) {name : String} (hname : name ∈ commonNames) :
    (d.respond settings request ({} : Buffered)).2.head.headers.get? name =
      Headers.get? ⟨d.commonFields request⟩ name := by
  have hdisjoint : ∀ a ∈ commonNames, ∀ b ∈ contentNames, a ≠ b := by decide
  have hmore : ∀ more : List (String × String), (∀ f ∈ more, f.1 ∈ contentNames) →
      Headers.get? ⟨d.commonFields request ++ more⟩ name =
        Headers.get? ⟨d.commonFields request⟩ name := by
    intro more hnames
    have hnone : more.lookup name = none := by
      rw [List.lookup_eq_none_iff]
      exact fun f hf => bne_iff_ne.mpr (hdisjoint name hname f.1 (hnames f hf))
    rw [Headers.get?, Headers.get?, canonicalName_of_mem (Or.inl hname), List.lookup_append, hnone,
      Option.or_none]
  by_cases hcond : d.NotModified request
  · rw [respond_of_notModified settings h hcond]
  · cases herror : d.errorCode with
    | some code =>
      rw [respond_of_error settings h hcond herror]
      exact hmore _ fun _ => name_mem_errorFields
    | none =>
      cases hbody : d.body with
      | none => rw [respond_of_missing settings h hcond herror hbody]; rfl
      | some steps =>
        obtain ⟨b, htake, hhead, -⟩ := takeAll_started d settings request steps
        rw [respond_of_body settings h hcond herror hbody, htake, hhead]
        exact hmore _ fun _ => name_mem_contentNames

end Description

namespace BuiltIn

variable {files : Storage} {settings : ResourceSettings} {request : Request} {r : BuiltIn}

/-! ### The description of a built-in resource -/

/-- The condition of the request holds: the resource was not modified after the instant. -/
def Unmodified (r : BuiltIn) (files : Storage) (request : Request) : Prop :=
  ∃ since modified, request.ifModifiedSince? = some since ∧ r.modified? files = some modified ∧
    modified.truncate.nanos ≤ since.nanos

/-- The dates of an answer to a request received at `now` can all be written. -/
structure DatesWritable (r : BuiltIn) (files : Storage) (settings : ResourceSettings)
    (now : Instant) : Prop where
  received : HttpDate.Writable now
  modified : ∀ t, r.modified? files = some t → HttpDate.Writable t
  expiry : (r.lifetime settings).nanos ≠ 0 →
    HttpDate.Writable (now.after ((r.lifetime settings).atMost maxLifetime))

/-- The description answers with bytes, or with an error that has no message. Bytes are announced
with their number, and the body writes them and nothing else. -/
def Delivers (d : Description) : Except Nat Bytes → Prop
  | .error status => d.errorCode = some status ∧ d.errorMessage = none
  | .ok content => d.errorCode = none ∧ d.contentLength = content.length ∧ ∃ steps,
      d.body = some steps ∧ (BodyStep.scriptAll steps).play.2 = .ok () ∧
        (BodyStep.scriptAll steps).play.1.flatMap Op.bytes = content

/-- The description says about modification and caching what the resource does, and it delivers
what the resource holds, unless the client need not have it. -/
structure Describes (d : Description) (r : BuiltIn) (files : Storage)
    (settings : ResourceSettings) (request : Request) : Prop where
  modified : d.lastModified = r.modified? files
  lifetime : d.lifetime = r.lifetime settings
  scope : d.scope = r.scope
  delivers : ¬r.Unmodified files request → Delivers d (r.held files request)

/-- A body that is written in one piece. -/
theorem delivers_write (d : Description) (content : Bytes) (h : d.errorCode = none) :
    Delivers (d.withBody content.length [.command (.write content)]) (.ok content) :=
  ⟨h, rfl, _, rfl, rfl, List.append_nil content⟩

/-- A body that is copied from a stream. -/
theorem delivers_stream (d : Description) (content : Bytes) (h : d.errorCode = none) :
    Delivers (d.withBody content.length [.stream [.data content]]) (.ok content) := by
  refine ⟨h, rfl, _, rfl, ?_, ?_⟩
  · rw [BodyStep.play_scriptAll_stream]
  · rw [BodyStep.play_scriptAll_stream, flatMap_bytes_write, flatten_chunks]

/-- The resource and its description decide alike whether the data is needed. -/
theorem needsData_eq_true {d : Description} (hmodified : d.lastModified = r.modified? files)
    (h : ¬r.Unmodified files request) : d.needsData request = true := by
  rw [← Bool.not_eq_false, Description.needsData_eq_false_iff, Description.NotModified, hmodified]
  exact h

theorem describes_bytes (b : BytesResource) (files : Storage) (settings : ResourceSettings)
    (request : Request) :
    Describes (b.describe settings request) (.bytes b) files settings request := by
  unfold BytesResource.describe
  dsimp only
  split
  · exact ⟨rfl, rfl, rfl, fun _ => delivers_write _ _ rfl⟩
  · next hdata =>
    exact ⟨rfl, rfl, rfl, fun hnot => absurd (needsData_eq_true rfl hnot) hdata⟩

theorem describes_file (f : FileResource) (files : Storage) (settings : ResourceSettings)
    (request : Request) :
    Describes (f.describe files settings request) (.file f) files settings request := by
  unfold FileResource.describe
  cases hopen : files.open? f.path with
  | error cause =>
    refine ⟨by rw [modified?, hopen]; rfl, rfl, rfl, fun _ => ?_⟩
    rw [held, hopen]
    -- the status for a cause is told from its kind on both sides
    cases hkind : cause.kind <;> simp [FileResource.statusOf, hkind, Delivers, Description.change,
      Description.create, Description.withLifetime]
  | ok opened =>
    cases opened with
    | directory =>
      refine ⟨by rw [modified?, hopen]; rfl, rfl, rfl, fun _ => ?_⟩
      rw [held, hopen]
      exact ⟨rfl, rfl⟩
    | regular content modified =>
      have hmodified : (BuiltIn.file f).modified? files = some modified := by rw [modified?, hopen]
      dsimp only
      split
      · refine ⟨hmodified.symm, rfl, rfl, fun _ => ?_⟩
        rw [held, hopen]
        exact delivers_stream _ _ rfl
      · next hdata =>
        exact ⟨hmodified.symm, rfl, rfl,
          fun hnot => absurd (needsData_eq_true hmodified.symm hnot) hdata⟩

/-- The description of an image once it was asked for. -/
def withImage (format : String) (d : Description) : Option Bytes → Description
  | some content =>
    { d with contentType := some ("image/" ++ format) }.withBody content.length
      [.command (.write content)]
  | none => d.change (.error 404 none)

/-- The description of an image before it is asked for. -/
def beforeImage (lastModified : Instant) (lifetime : Option Duration)
    (settings : ResourceSettings) : Description :=
  { (Description.create settings).withLifetime lifetime with lastModified := some lastModified }

/-- The description of an image that is asked for only if the data is needed. -/
def imageDescription (format : String) (lastModified : Instant) (lifetime : Option Duration)
    (generate : Request → Option Bytes) (settings : ResourceSettings) (request : Request) :
    Description :=
  let d := beforeImage lastModified lifetime settings
  if d.needsData request then withImage format d (generate request) else d

/-- **An image is generated once if the data is needed, and not at all otherwise.** -/
theorem describeIn_eq {m : Type → Type} [Monad m] [LawfulMonad m] (format : String)
    (lastModified : Instant) (lifetime : Option Duration) (generate : m (Option Bytes))
    (settings : ResourceSettings) (request : Request) :
    ImageResource.describeIn format lastModified lifetime generate settings request =
      if (beforeImage lastModified lifetime settings).needsData request then
        withImage format (beforeImage lastModified lifetime settings) <$> generate
      else pure (beforeImage lastModified lifetime settings) := by
  rw [← bind_pure_comp]
  unfold ImageResource.describeIn
  dsimp only
  congr 2
  funext image
  cases image <;> rfl

theorem describe_image (format : String) (lastModified : Instant) (lifetime : Option Duration)
    (generate : Request → Option Bytes) (files : Storage) (settings : ResourceSettings)
    (request : Request) :
    (BuiltIn.image format lastModified lifetime generate).resource.describe files settings request =
      .ok (imageDescription format lastModified lifetime generate settings request) := by
  rw [resource, Resource.describe, ImageResource.describe, describeIn_eq, imageDescription]
  dsimp only
  split <;> rfl

theorem describeCounted_image (format : String) (lastModified : Instant)
    (lifetime : Option Duration) (generate : Request → Option Bytes) (files : Storage)
    (settings : ResourceSettings) (request : Request) :
    (BuiltIn.image format lastModified lifetime generate).describeCounted files settings request =
      (imageDescription format lastModified lifetime generate settings request,
        if (beforeImage lastModified lifetime settings).needsData request then 1 else 0) := by
  rw [describeCounted, describeIn_eq, imageDescription]
  split <;> rfl

theorem describes_image (format : String) (lastModified : Instant) (lifetime : Option Duration)
    (generate : Request → Option Bytes) (files : Storage) (settings : ResourceSettings)
    (request : Request) :
    Describes (imageDescription format lastModified lifetime generate settings request)
      (.image format lastModified lifetime generate) files settings request := by
  unfold imageDescription
  dsimp only
  split
  · cases himage : generate request with
    | some content =>
      refine ⟨rfl, rfl, rfl, fun _ => ?_⟩
      rw [held, himage]
      exact delivers_write _ _ rfl
    | none =>
      refine ⟨rfl, rfl, rfl, fun _ => ?_⟩
      rw [held, himage]
      exact ⟨rfl, rfl⟩
  · next hdata =>
    exact ⟨rfl, rfl, rfl, fun hnot => absurd (needsData_eq_true rfl hnot) hdata⟩

/-- **A built-in resource is described as it is.** Counting how often an image is generated changes
nothing about the description; it is generated at most once, and only if the data is needed. -/
theorem exists_describes (r : BuiltIn) (files : Storage) (settings : ResourceSettings)
    (request : Request) :
    ∃ d count, r.resource.describe files settings request = .ok d ∧
      r.describeCounted files settings request = (d, count) ∧
      Describes d r files settings request ∧ count ≤ 1 ∧
      (r.Unmodified files request → count = 0) := by
  cases r with
  | bytes b =>
    exact ⟨_, 0, rfl, rfl, describes_bytes b files settings request, by decide, fun _ => rfl⟩
  | file f =>
    exact ⟨_, 0, rfl, rfl, describes_file f files settings request, by decide, fun _ => rfl⟩
  | image format lastModified lifetime generate =>
    refine ⟨_, _, describe_image .., describeCounted_image .., describes_image .., ?_, fun h => ?_⟩
    · split <;> decide
    · have hdata : (beforeImage lastModified lifetime settings).needsData request = false :=
        Description.needsData_eq_false_iff.mpr h
      rw [hdata, if_neg Bool.false_ne_true]

/-! ### The answer of a built-in resource -/

/-- An error is reported with one of three statuses. -/
theorem status_of_held_error {status : Nat} (h : r.held files request = .error status) :
    status ∈ [403, 404, 500] := by
  unfold held at h
  split at h
  · exact absurd h (by simp)
  · split at h
    · exact absurd h (by simp)
    · obtain rfl := Except.error.inj h
      decide
    · split at h <;> (obtain rfl := Except.error.inj h; decide)
  · split at h
    · exact absurd h (by simp)
    · obtain rfl := Except.error.inj h
      decide

/-- The answer holds what is delivered: an error without a body, or exactly the bytes, with their
number announced. -/
def Complete (b : Buffered) : Except Nat Bytes → Prop
  | .error status => b.head.status = status ∧ status ∈ [403, 404, 500] ∧ b.body = []
  | .ok content => b.head.status = 200 ∧ b.body = content ∧
      b.head.headers.get? "content-length" = some (toString content.length)

/-- Only an answer that nothing was modified has status 304. -/
theorem Complete.status_ne {b : Buffered} {held : Except Nat Bytes} (h : Complete b held) :
    b.head.status ≠ 304 := by
  intro hstatus
  cases held with
  | error status =>
    obtain ⟨hcode, hmem, -⟩ := h
    rw [← hcode, hstatus] at hmem
    exact absurd hmem (by decide)
  | ok content => exact absurd (hstatus.symm.trans h.1) (by decide)

/-- A description that delivers something, if that is needed, is answered completely. -/
theorem exists_complete_of_delivers {d : Description} {held : Except Nat Bytes}
    (settings : ResourceSettings) (h : d.DatesWritable request) (hcond : ¬d.NotModified request)
    (hstatus : ∀ status, held = .error status → status ∈ [403, 404, 500])
    (hdelivers : Delivers d held) :
    ∃ b, d.respond settings request ({} : Buffered) = (.ok (), b) ∧ Complete b held := by
  cases held with
  | error status =>
    obtain ⟨herror, hmessage⟩ := hdelivers
    refine ⟨_, Description.respond_of_error settings h hcond herror, rfl, hstatus status rfl, ?_⟩
    rw [Description.reported, hmessage]
    rfl
  | ok content =>
    obtain ⟨herror, hlength, steps, hbody, hresult, hbytes⟩ := hdelivers
    obtain ⟨b, htake, hhead, -, hb⟩ := Description.takeAll_started d settings request steps
    refine ⟨b, ?_, ?_, ?_, ?_⟩
    · rw [Description.respond_of_body settings h hcond herror hbody, htake, hresult]
    · rw [hhead]
      rfl
    · rw [hb, flatten_chunksAfter_true, hbytes]
    · rw [hhead]
      obtain ⟨-, -, hannounced⟩ :=
        Description.get?_contentFields d request settings.mediaTypes
      refine hannounced.trans ?_
      rw [hlength, if_pos (Int.natCast_nonneg _), Int.toNat_natCast]

theorem datesWritable_of_describes {d : Description} (h : Describes d r files settings request)
    (hdates : r.DatesWritable files settings request.received) : d.DatesWritable request := by
  refine ⟨hdates.received, ?_, ?_⟩
  · rw [h.modified]
    exact hdates.modified
  · rw [h.lifetime]
    exact hdates.expiry

/-- The head tells when the resource was modified, if it was stored at all, and when the request was
received. A resource without a lifetime has expired in 1970 and is kept by no cache; any other one
expires when its lifetime is over, and the caches of its scope keep it for as many seconds. -/
structure Announces (head : Head) (r : BuiltIn) (files : Storage) (settings : ResourceSettings)
    (now : Instant) : Prop where
  modified : head.headers.get? "last-modified" = (r.modified? files).map dateText
  date : head.headers.get? "date" = some (dateText now)
  uncached : (r.lifetime settings).nanos = 0 →
    head.headers.get? "expires" = some (dateText .epoch) ∧
      head.headers.get? "cache-control" = some "no-cache, no-store" ∧
      head.headers.get? "pragma" = some "no-cache"
  cached : (r.lifetime settings).nanos ≠ 0 →
    let lifetime := (r.lifetime settings).atMost maxLifetime
    head.headers.get? "expires" = some (dateText (now.after lifetime)) ∧
      head.headers.get? "cache-control" =
        some s!"{r.scope.word}, max-age={lifetime.roundedSeconds}" ∧
      head.headers.get? "pragma" = some "cache"

/-- **What a built-in resource says about caching and modification** depends on nothing in the
request but the instant at which it was received. -/
theorem announces_respond {d : Description} (hd : Describes d r files settings request)
    (h : r.DatesWritable files settings request.received) :
    Announces (d.respond settings request ({} : Buffered)).2.head r files settings
      request.received := by
  have hfield : ∀ name ∈ Description.commonNames,
      (d.respond settings request ({} : Buffered)).2.head.headers.get? name =
        ((r.modified? files).toList.map (fun t => ("last-modified", dateText t)) ++
          (if (r.lifetime settings).nanos = 0 then uncachedFields request.received
          else cachedFields ((r.lifetime settings).atMost maxLifetime) r.scope
            request.received)).lookup name := by
    intro name hname
    rw [Description.get?_common_of_respond settings (datesWritable_of_describes hd h) hname,
      Headers.get?, Description.canonicalName_of_mem (Or.inl hname), Description.commonFields,
      Description.cachingFields, hd.modified, hd.lifetime, hd.scope]
  refine ⟨(hfield _ (by decide)).trans ?_, (hfield _ (by decide)).trans ?_, fun hlifetime => ?_,
    fun hlifetime => ?_⟩
  · cases r.modified? files <;> split <;> rfl
  · cases r.modified? files <;> split <;> rfl
  · rw [hfield _ (by decide), hfield _ (by decide), hfield _ (by decide), if_pos hlifetime]
    cases r.modified? files <;> exact ⟨rfl, rfl, rfl⟩
  · dsimp only
    rw [hfield _ (by decide), hfield _ (by decide), hfield _ (by decide), if_neg hlifetime]
    cases r.modified? files <;> exact ⟨rfl, rfl, rfl⟩

/-- The five fields are the same in two heads that tell the same. -/
theorem Announces.get?_eq {head other : Head} {now : Instant}
    (h : Announces head r files settings now) (h' : Announces other r files settings now) :
    ∀ name ∈ Description.commonNames, other.headers.get? name = head.headers.get? name := by
  intro name hname
  simp only [Description.commonNames, List.mem_cons, List.not_mem_nil, or_false] at hname
  by_cases hlifetime : (r.lifetime settings).nanos = 0
  · obtain ⟨hexpires, hcontrol, hpragma⟩ := h.uncached hlifetime
    obtain ⟨hexpires', hcontrol', hpragma'⟩ := h'.uncached hlifetime
    rcases hname with rfl | rfl | rfl | rfl | rfl
    · rw [h.modified, h'.modified]
    · rw [h.date, h'.date]
    · rw [hexpires, hexpires']
    · rw [hcontrol, hcontrol']
    · rw [hpragma, hpragma']
  · obtain ⟨hexpires, hcontrol, hpragma⟩ := h.cached hlifetime
    obtain ⟨hexpires', hcontrol', hpragma'⟩ := h'.cached hlifetime
    rcases hname with rfl | rfl | rfl | rfl | rfl
    · rw [h.modified, h'.modified]
    · rw [h.date, h'.date]
    · rw [hexpires, hexpires']
    · rw [hcontrol, hcontrol']
    · rw [hpragma, hpragma']

/-- **Built-in resources answer completely and consistently**, as long as their dates can be
written. The answer succeeds. If the resource was not modified since the instant that the request
names, the answer has status 304 and no body, and no image is generated for it; otherwise the answer
reports why there is nothing to send, or it is exactly what the resource holds. An image is
generated at most once. In each case the answer tells when the resource was modified and how long
caches may keep it; whatever else is asked at the same instant, the answer says the same about
this. -/
theorem respond_complete (r : BuiltIn) (files : Storage) (settings : ResourceSettings)
    (request : Request) (h : r.DatesWritable files settings request.received) :
    ∃ (b : Buffered) (count : Nat),
      r.resource.respond files settings request ({} : Buffered) = (.ok (), b) ∧
      (r.Unmodified files request → b.head.status = 304 ∧ b.body = []) ∧
      (¬r.Unmodified files request → Complete b (r.held files request)) ∧
      r.respondCounted files settings request ({} : Buffered) = ((.ok (), b), count) ∧
      count ≤ 1 ∧ (b.head.status = 304 → count = 0) ∧
      Announces b.head r files settings request.received ∧
      ∀ other : Request, other.received = request.received →
        ∀ name ∈ ["last-modified", "date", "expires", "cache-control", "pragma"],
          (r.resource.respond files settings other ({} : Buffered)).2.head.headers.get? name =
            b.head.headers.get? name := by
  obtain ⟨d, count, hdescribe, hcounted, hd, hcount, hnever⟩ :=
    exists_describes r files settings request
  have hdates := datesWritable_of_describes hd h
  have hcond : d.NotModified request ↔ r.Unmodified files request := by
    rw [Description.NotModified, hd.modified]
    rfl
  have hannounces := announces_respond hd h
  have hcommon : ∀ other : Request, other.received = request.received →
      ∀ name ∈ Description.commonNames,
        (r.resource.respond files settings other ({} : Buffered)).2.head.headers.get? name =
          (d.respond settings request ({} : Buffered)).2.head.headers.get? name := by
    intro other hreceived
    obtain ⟨d', -, hdescribe', -, hd', -⟩ := exists_describes r files settings other
    have hother := announces_respond hd' (hreceived ▸ h)
    rw [hreceived] at hother
    rw [Resource.respond, hdescribe']
    exact hannounces.get?_eq hother
  rw [Resource.respond, hdescribe, respondCounted, hcounted]
  dsimp only
  by_cases hun : r.Unmodified files request
  · have hb := Description.respond_of_notModified settings hdates (hcond.mpr hun)
    rw [hb] at hannounces hcommon ⊢
    exact ⟨_, count, rfl, fun _ => ⟨rfl, rfl⟩, fun hnot => absurd hun hnot, rfl, hcount,
      fun _ => hnever hun, hannounces, hcommon⟩
  · obtain ⟨b, hb, hcomplete⟩ := exists_complete_of_delivers settings hdates
      (fun hnot => hun (hcond.mp hnot)) (fun status => status_of_held_error) (hd.delivers hun)
    rw [hb] at hannounces hcommon ⊢
    exact ⟨b, count, rfl, fun hnot => absurd hnot hun, fun _ => hcomplete, rfl, hcount,
      fun hstatus => absurd hstatus hcomplete.status_ne, hannounces, hcommon⟩

/-- A file that was stored is sent whole to a client that has no copy of it, and not at all to one
whose copy is as old as the file. Both are told the same about caching. -/
theorem respond_complete_stored :
    let files : Storage := ⟨[(["notes.txt"], .file [104, 105] (.ofSeconds 784111777))]⟩
    let file : BuiltIn := .file { path := "/notes.txt", lifetime := some (.ofSeconds 60) }
    let request : Request := { path := "/notes.txt", received := .ofSeconds 784111800 }
    let since : Headers := ⟨[("if-modified-since", "Sun, 06 Nov 1994 08:49:37 GMT")]⟩
    let settings : ResourceSettings := ⟨.ofSeconds 0, {}⟩
    ∃ b kept : Buffered,
      file.resource.respond files settings request ({} : Buffered) = (.ok (), b) ∧
      b.head.status = 200 ∧ b.body = [104, 105] ∧
      b.head.headers.get? "content-length" = some "2" ∧
      file.resource.respond files settings { request with headers := since } ({} : Buffered) =
        (.ok (), kept) ∧
      kept.head.status = 304 ∧ kept.body = [] ∧
      ∀ head ∈ [b.head, kept.head],
        head.headers.get? "last-modified" = some "Sun, 06 Nov 1994 08:49:37 GMT" ∧
        head.headers.get? "date" = some "Sun, 06 Nov 1994 08:50:00 GMT" ∧
        head.headers.get? "expires" = some "Sun, 06 Nov 1994 08:51:00 GMT" ∧
        head.headers.get? "cache-control" = some "private, max-age=60" ∧
        head.headers.get? "pragma" = some "cache" := by
  intro files file request since settings
  have hopen : files.open? "/notes.txt" = .ok (.regular [104, 105] (.ofSeconds 784111777)) :=
    rfl
  have hmodified : file.modified? files = some (.ofSeconds 784111777) := by
    simp only [file, modified?, hopen]
  have hdates : file.DatesWritable files settings request.received := by
    refine ⟨⟨by decide, by decide⟩, fun t ht => ?_, fun _ => ⟨by decide, by decide⟩⟩
    obtain rfl := Option.some.inj (hmodified.symm.trans ht)
    exact ⟨by decide, by decide⟩
  have hnever : ¬file.Unmodified files request := by
    rintro ⟨asked, modified, hasked, -⟩
    exact nomatch hasked
  have hsince : file.Unmodified files { request with headers := since } := by
    refine ⟨.ofSeconds 784111777, _, ?_, hmodified, Int.le_refl _⟩
    decide +kernel
  obtain ⟨b, _, hb, -, hcomplete, -, -, -, hannounces, hsame⟩ :=
    respond_complete file files settings request hdates
  obtain ⟨kept, _, hkept, hunmodified, -⟩ :=
    respond_complete file files settings { request with headers := since } hdates
  have hheld : file.held files request = .ok [104, 105] := by
    simp only [file, held, hopen]
  have hanswer := hcomplete hnever
  rw [hheld] at hanswer
  have hcommon := hsame { request with headers := since } rfl
  rw [hkept] at hcommon
  obtain ⟨hexpires, hcontrol, hpragma⟩ := hannounces.cached (by decide)
  have hvalues : b.head.headers.get? "last-modified" = some "Sun, 06 Nov 1994 08:49:37 GMT" ∧
      b.head.headers.get? "date" = some "Sun, 06 Nov 1994 08:50:00 GMT" ∧
      b.head.headers.get? "expires" = some "Sun, 06 Nov 1994 08:51:00 GMT" ∧
      b.head.headers.get? "cache-control" = some "private, max-age=60" ∧
      b.head.headers.get? "pragma" = some "cache" := by
    rw [hannounces.modified, hannounces.date, hexpires, hcontrol, hpragma, hmodified]
    decide +kernel
  refine ⟨b, kept, hb, hanswer.1, hanswer.2.1, hanswer.2.2, hkept, (hunmodified hsince).1,
    (hunmodified hsince).2, ?_⟩
  rw [List.forall_mem_cons, List.forall_mem_singleton]
  refine ⟨hvalues, ?_⟩
  dsimp only at hcommon
  rw [hcommon _ (by decide), hcommon _ (by decide), hcommon _ (by decide), hcommon _ (by decide),
    hcommon _ (by decide)]
  exact hvalues

end BuiltIn

end WebMount
