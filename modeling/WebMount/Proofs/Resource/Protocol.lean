import Mathlib.Data.List.Infix
import WebMount.Proofs.Resource.Script
import WebMount.Proofs.Response.Command
import WebMount.Proofs.Text.Slice
import WebMount.Proofs.Time.HttpDate

/-!
# The four exits of an answer

An answer as described leaves by one of four exits: the resource was not modified, it reports an
error, it has no body to write, or its body is written after the head was sent. For each exit the
buffered response is given in full (`respond_of_notModified`, `respond_of_error`,
`respond_of_missing`, `respond_of_body`), as long as its dates can be written. Together they say
what becomes of every description.
-/

namespace WebMount

open WebMount.Response WebMount.Time

namespace Description

/-- The condition of the request holds: the resource was not modified after the instant. -/
def NotModified (d : Description) (request : Request) : Prop :=
  ∃ since modified, request.ifModifiedSince? = some since ∧ d.lastModified = some modified ∧
    modified.truncate.nanos ≤ since.nanos

theorem needsData_eq_false_iff {d : Description} {request : Request} :
    d.needsData request = false ↔ d.NotModified request := by
  unfold needsData NotModified
  cases request.ifModifiedSince? with
  | none => simp
  | some since =>
    cases d.lastModified with
    | none => simp
    | some modified => simp

/-- The dates of an answer can all be written. -/
structure DatesWritable (d : Description) (request : Request) : Prop where
  received : HttpDate.Writable request.received
  modified : ∀ t, d.lastModified = some t → HttpDate.Writable t
  expiry : d.lifetime.nanos ≠ 0 →
    HttpDate.Writable (request.received.after (d.lifetime.atMost maxLifetime))

/-! ### The fields of an answer -/

/-- The fields about caching. -/
def cachingFields (d : Description) (request : Request) : List (String × String) :=
  if d.lifetime.nanos = 0 then uncachedFields request.received
  else cachedFields (d.lifetime.atMost maxLifetime) d.scope request.received

/-- The fields that are set whether or not there is data to send. -/
def commonFields (d : Description) (request : Request) : List (String × String) :=
  (d.lastModified.toList.map fun t => ("last-modified", dateText t)) ++ d.cachingFields request

/-- The content type as it is to be sent: the media type that is set, or else the one known for the
file name, and behind it the encoding if there is one and the type has the word `text` in it. -/
def shownType? (d : Description) (types : MediaTypes) : Option String :=
  (d.contentType.or (d.fileName.bind types.typeOf?)).map fun mediaType =>
    if "text".toList <:+: mediaType.toList then
      mediaType ++ (d.textEncoding.map ("; charset=" ++ ·)).getD ""
    else mediaType

/-- The fields about the data. A content type that cannot be the value of a field is left out. -/
def contentFields (d : Description) (types : MediaTypes) : List (String × String) :=
  [("content-disposition", Disposition.headerValue d.disposition.word d.fileName)]
    ++ (((d.shownType? types).filter Headers.isValue).toList.map
      fun value => ("content-type", value))
    ++ (if 0 ≤ d.contentLength then [("content-length", toString d.contentLength.toNat)] else [])

/-- The content type is sent as it is to be. -/
theorem contentTypeField?_eq (d : Description) (types : MediaTypes) :
    d.contentTypeField? types = d.shownType? types := by
  have htype : d.mediaType? types = d.contentType.or (d.fileName.bind types.typeOf?) := by
    rw [mediaType?]
    cases d.contentType with
    | some mediaType => rfl
    | none => cases d.fileName <;> rfl
  rw [contentTypeField?, shownType?, htype]
  congr 1
  funext mediaType
  have htext : isTextual mediaType = true ↔ "text".toList <:+: mediaType.toList :=
    Text.occursIn_iff
  cases d.textEncoding with
  | none => simp
  | some encoding =>
    dsimp only [Option.map_some, Option.getD_some]
    simp only [htext]
    split
    · rw [← String.append_assoc]
      rfl
    · rfl

/-- The fields about the message of an error. -/
def errorFields (message : Option String) : List (String × String) :=
  if message.isSome then [("content-type", plainText)] else []

/-- The names of the fields about caching and modification. -/
def commonNames : List String :=
  ["last-modified", "date", "expires", "cache-control", "pragma"]

/-- The names of the fields about the data. -/
def contentNames : List String :=
  ["content-disposition", "content-type", "content-length"]

theorem name_mem_commonNames {d : Description} {request : Request} {f : String × String}
    (h : f ∈ d.commonFields request) : f.1 ∈ commonNames := by
  rw [commonFields, List.mem_append] at h
  rcases h with h | h
  · obtain ⟨t, -, rfl⟩ := List.mem_map.mp h
    simp [commonNames]
  · rw [cachingFields] at h
    split at h
    · simp only [uncachedFields, List.mem_cons, List.not_mem_nil, or_false] at h
      rcases h with rfl | rfl | rfl | rfl <;> simp [commonNames]
    · simp only [cachedFields, List.mem_cons, List.not_mem_nil, or_false] at h
      rcases h with rfl | rfl | rfl | rfl <;> simp [commonNames]

theorem name_mem_contentNames {d : Description} {types : MediaTypes} {f : String × String}
    (h : f ∈ d.contentFields types) : f.1 ∈ contentNames := by
  rw [contentFields, List.mem_append, List.mem_append] at h
  rcases h with (h | h) | h
  · obtain rfl := List.mem_singleton.mp h
    simp [contentNames]
  · obtain ⟨value, -, rfl⟩ := List.mem_map.mp h
    simp [contentNames]
  · split at h
    · obtain rfl := List.mem_singleton.mp h
      simp [contentNames]
    · exact absurd h List.not_mem_nil

theorem name_mem_errorFields {message : Option String} {f : String × String}
    (h : f ∈ errorFields message) : f.1 ∈ contentNames := by
  rw [errorFields] at h
  split at h
  · obtain rfl := List.mem_singleton.mp h
    simp [contentNames]
  · exact absurd h List.not_mem_nil

theorem nodup_commonFields (d : Description) (request : Request) :
    ((d.commonFields request).map Prod.fst).Nodup := by
  cases hmodified : d.lastModified <;> by_cases hlifetime : d.lifetime.nanos = 0 <;>
    simp [commonFields, cachingFields, uncachedFields, cachedFields, hmodified, hlifetime]

theorem nodup_contentFields (d : Description) (types : MediaTypes) :
    ((d.contentFields types).map Prod.fst).Nodup := by
  cases htype : (d.shownType? types).filter Headers.isValue <;>
    by_cases hlength : 0 ≤ d.contentLength <;> simp [contentFields, htype, hlength]

theorem nodup_errorFields (message : Option String) :
    ((errorFields message).map Prod.fst).Nodup := by
  cases message <;> simp [errorFields]

theorem canonicalName_of_mem {name : String} (h : name ∈ commonNames ∨ name ∈ contentNames) :
    Headers.canonicalName name = name := by
  have hlower : ∀ name ∈ commonNames ++ contentNames, Headers.canonicalName name = name := by
    decide
  exact hlower name (List.mem_append.mpr h)

/-- The common fields are all set. -/
theorem setAll_commonFields (d : Description) (request : Request) :
    Headers.setAll {} (d.commonFields request) = ⟨d.commonFields request⟩ :=
  Headers.setAll_of_nodup (fun _ hf => canonicalName_of_mem (Or.inl (name_mem_commonNames hf)))
    (nodup_commonFields d request)

/-- Fields about the data take none of the common fields away. -/
theorem setAll_content (d : Description) (request : Request) {content : List (String × String)}
    (hnames : ∀ f ∈ content, f.1 ∈ contentNames) (hnodup : (content.map Prod.fst).Nodup) :
    Headers.setAll ⟨d.commonFields request⟩ content = ⟨d.commonFields request ++ content⟩ := by
  have hdisjoint : ∀ a ∈ commonNames, ∀ b ∈ contentNames, a ≠ b := by decide
  refine Headers.setAll_of_nodup (fun f hf => canonicalName_of_mem (Or.inr (hnames f hf))) ?_
  rw [List.map_append, List.nodup_append]
  refine ⟨nodup_commonFields d request, hnodup, ?_⟩
  intro a ha b hb
  obtain ⟨f, hf, rfl⟩ := List.mem_map.mp ha
  obtain ⟨g, hg, rfl⟩ := List.mem_map.mp hb
  exact hdisjoint _ (name_mem_commonNames hf) _ (hnames g hg)

/-! ### The commands of an answer -/

theorem writes_commonCommands {d : Description} {request : Request}
    (h : d.DatesWritable request) : Writes (d.commonCommands request) (d.commonFields request) := by
  obtain ⟨date, hdate⟩ := HttpDate.exists_format? h.received
  refine .append ?_ ?_
  · cases hmodified : d.lastModified with
    | none => exact .nil
    | some t =>
      obtain ⟨text, htext⟩ := HttpDate.exists_format? (h.modified t hmodified)
      exact writes_lastModified htext
  · rw [cachingCommand, cachingFields]
    split
    · -- a response that is not kept has expired in 1970
      have hwritable : HttpDate.Writable .epoch := ⟨by decide, by decide⟩
      obtain ⟨epoch, hepoch⟩ := HttpDate.exists_format? hwritable
      exact writes_disableCaching hdate hepoch
    · next hlifetime =>
      obtain ⟨expires, hexpires⟩ := HttpDate.exists_format? (h.expiry hlifetime)
      exact writes_enableCaching hdate hexpires

/-- The commands about the data set their fields and send the head. -/
theorem performAll_contentCommands (d : Description) (types : MediaTypes) {b : Buffered}
    (hb : b.committed = false) : performAll b (d.contentCommands types) = (.ok (), { b with
      head := ⟨b.head.status, b.head.headers.setAll (d.contentFields types)⟩
      committed := true
      flushes := b.flushes + 1 }) := by
  have hlength : Writes (if 0 ≤ d.contentLength then [.contentLength d.contentLength.toNat] else [])
      (if 0 ≤ d.contentLength then [("content-length", toString d.contentLength.toNat)]
        else []) := by
    split
    · exact writes_contentLength _
    · exact .nil
  have hfields := ((writes_disposition d.disposition d.fileName).append
    (writes_contentType (d.contentTypeField? types))).append hlength
  rw [contentCommands, performAll_append, hfields b hb, contentTypeField?_eq]
  rfl

/-- What is said on behalf of a resource is said. -/
private theorem say_of_performAll {b t : Buffered} {cs : List Command}
    (h : performAll b cs = (.ok (), t)) : say b cs = (.ok (), t) := by
  rw [say, h]
  rfl

/-! ### The four exits -/

/-- The response once the common fields are set. -/
def announced (d : Description) (request : Request) : Buffered :=
  { head := ⟨200, ⟨d.commonFields request⟩⟩ }

/-- The response that reports an error. -/
def reported (d : Description) (request : Request) (code : Nat) : Buffered :=
  { head := ⟨code, ⟨d.commonFields request ++ errorFields d.errorMessage⟩⟩
    written := [messageBytes d.errorMessage]
    committed := true }

/-- The response when its body begins: the head is sent, with all fields. -/
def started (d : Description) (settings : ResourceSettings) (request : Request) : Buffered :=
  { head := ⟨200, ⟨d.commonFields request ++ d.contentFields settings.mediaTypes⟩⟩
    committed := true
    flushes := 1 }

variable {d : Description} {request : Request}

private theorem say_commonCommands (h : d.DatesWritable request) :
    say ({} : Buffered) (d.commonCommands request) = (.ok (), d.announced request) := by
  refine say_of_performAll ?_
  rw [writes_commonCommands h _ rfl, announced, ← setAll_commonFields]

private theorem say_contentCommands (d : Description) (settings : ResourceSettings)
    (request : Request) : say (d.announced request) (d.contentCommands settings.mediaTypes) =
      (.ok (), d.started settings request) := by
  have hset := setAll_content d request (fun _ => name_mem_contentNames)
    (nodup_contentFields d settings.mediaTypes)
  refine say_of_performAll ?_
  rw [performAll_contentCommands d settings.mediaTypes rfl, started, ← hset]
  rfl

/-- **Not modified.** The answer has status 304, no body, and the common fields only. -/
theorem respond_of_notModified (settings : ResourceSettings) (h : d.DatesWritable request)
    (hcond : d.NotModified request) : d.respond settings request ({} : Buffered) =
      (.ok (), { head := ⟨304, ⟨d.commonFields request⟩⟩ }) := by
  rw [respond, say_commonCommands h]
  dsimp only
  rw [needsData_eq_false_iff.mpr hcond, Bool.not_false, if_pos rfl]
  rfl

/-- Where the data is needed, the error comes before the body. -/
theorem respond_of_modified (settings : ResourceSettings) (h : d.DatesWritable request)
    (hcond : ¬d.NotModified request) : d.respond settings request ({} : Buffered) =
      match d.errorCode, d.body with
      | some code, _ => say (d.announced request) [.error code d.errorMessage]
      | none, none => (.error .missingBody, d.announced request)
      | none, some steps => BodyStep.takeAll (d.started settings request) steps := by
  have hneeds : d.needsData request = true := by
    rw [← Bool.not_eq_false, needsData_eq_false_iff]
    exact hcond
  rw [respond, say_commonCommands h]
  dsimp only
  rw [hneeds, Bool.not_true, if_neg Bool.false_ne_true]
  cases d.errorCode with
  | some code => rfl
  | none =>
    cases d.body with
    | none => rfl
    | some steps =>
      dsimp only
      rw [say_contentCommands]

/-- **Error.** The answer has the status of the error and its message as the body. -/
theorem respond_of_error (settings : ResourceSettings) (h : d.DatesWritable request)
    (hcond : ¬d.NotModified request) {code : Nat} (herror : d.errorCode = some code) :
    d.respond settings request ({} : Buffered) = (.ok (), d.reported request code) := by
  have hset := setAll_content d request (fun _ => name_mem_errorFields)
    (nodup_errorFields d.errorMessage)
  have hstep : performAll (d.announced request) [.error code d.errorMessage] =
      (.ok (), (d.announced request).step (.error code d.errorMessage)) := rfl
  rw [respond_of_modified settings h hcond, herror]
  refine say_of_performAll ?_
  rw [hstep, reported, ← hset]
  -- the message alone decides about the content type
  cases d.errorMessage <;> rfl

/-- **No body.** Nothing is sent. -/
theorem respond_of_missing (settings : ResourceSettings) (h : d.DatesWritable request)
    (hcond : ¬d.NotModified request) (herror : d.errorCode = none) (hbody : d.body = none) :
    d.respond settings request ({} : Buffered) = (.error .missingBody, d.announced request) := by
  rw [respond_of_modified settings h hcond, herror, hbody]

/-- **Body.** The head is sent, and then the body is written. -/
theorem respond_of_body (settings : ResourceSettings) (h : d.DatesWritable request)
    (hcond : ¬d.NotModified request) (herror : d.errorCode = none) {steps : List BodyStep}
    (hbody : d.body = some steps) : d.respond settings request ({} : Buffered) =
      BodyStep.takeAll (d.started settings request) steps := by
  rw [respond_of_modified settings h hcond, herror, hbody]

/-- A field of another name is not found. -/
private theorem get?_eq_none {fields : List (String × String)} {name : String}
    (hname : name ∈ contentNames) (h : ∀ f ∈ fields, f.1 ≠ name) :
    Headers.get? ⟨fields⟩ name = none := by
  rw [Headers.get?, canonicalName_of_mem (Or.inr hname), List.lookup_eq_none_iff]
  intro f hf
  exact bne_iff_ne.mpr fun heq => h f hf heq.symm

/-- An error says nothing about data, and gives a content type for its message only. -/
theorem get?_errorFields (d : Description) (request : Request) (message : Option String) :
    let headers : Headers := ⟨d.commonFields request ++ errorFields message⟩
    headers.get? "content-disposition" = none ∧ headers.get? "content-length" = none ∧
      headers.get? "content-type" = message.map fun _ => plainText := by
  have hcommon : ∀ f ∈ d.commonFields request, ∀ name ∈ contentNames, f.1 ≠ name := by
    have hdisjoint : ∀ a ∈ commonNames, ∀ b ∈ contentNames, a ≠ b := by decide
    exact fun f hf => hdisjoint _ (name_mem_commonNames hf)
  have hother : ∀ f ∈ errorFields message, f.1 = "content-type" := by
    cases message <;> simp [errorFields]
  refine ⟨get?_eq_none (by decide) ?_, get?_eq_none (by decide) ?_, ?_⟩
  · intro f hf
    rcases List.mem_append.mp hf with hf | hf
    · exact hcommon f hf _ (by decide)
    · rw [hother f hf]
      decide
  · intro f hf
    rcases List.mem_append.mp hf with hf | hf
    · exact hcommon f hf _ (by decide)
    · rw [hother f hf]
      decide
  · have hnone : Headers.get? ⟨d.commonFields request⟩ "content-type" = none :=
      get?_eq_none (by decide) fun f hf => hcommon f hf _ (by decide)
    rw [Headers.get?, canonicalName_of_mem (by decide)] at hnone ⊢
    rw [List.lookup_append, hnone, Option.none_or]
    cases message <;> rfl

/-- The head in front of a body tells each of the fields about the data. -/
theorem get?_contentFields (d : Description) (request : Request) (types : MediaTypes) :
    let headers : Headers := ⟨d.commonFields request ++ d.contentFields types⟩
    headers.get? "content-disposition" =
        some (Disposition.headerValue d.disposition.word d.fileName) ∧
      headers.get? "content-type" = (d.shownType? types).filter Headers.isValue ∧
      headers.get? "content-length" =
        if 0 ≤ d.contentLength then some (toString d.contentLength.toNat) else none := by
  have hcommon : ∀ name ∈ contentNames, (d.commonFields request).lookup name = none := by
    have hdisjoint : ∀ a ∈ commonNames, ∀ b ∈ contentNames, b ≠ a := by decide
    intro name hname
    rw [List.lookup_eq_none_iff]
    exact fun f hf => bne_iff_ne.mpr (hdisjoint f.1 (name_mem_commonNames hf) name hname)
  have hfield : ∀ name ∈ contentNames,
      Headers.get? ⟨d.commonFields request ++ d.contentFields types⟩ name =
        (d.contentFields types).lookup name := by
    intro name hname
    rw [Headers.get?, canonicalName_of_mem (Or.inr hname), List.lookup_append, hcommon name hname,
      Option.none_or]
  refine ⟨(hfield _ (by decide)).trans rfl, (hfield _ (by decide)).trans ?_,
    (hfield _ (by decide)).trans ?_⟩
  · rw [contentFields]
    cases (d.shownType? types).filter Headers.isValue <;> split <;> rfl
  · rw [contentFields]
    cases (d.shownType? types).filter Headers.isValue <;> split <;> rfl

/-- A body is written as its program plays, on a head that stays as it was sent. -/
theorem takeAll_started (d : Description) (settings : ResourceSettings) (request : Request)
    (steps : List BodyStep) :
    ∃ b, BodyStep.takeAll (d.started settings request) steps =
        ((BodyStep.scriptAll steps).play.2, b) ∧
      b.head = (d.started settings request).head ∧ b.committed = true ∧
      b.body = (chunksAfter true (BodyStep.scriptAll steps).play.1).flatten := by
  have hrun := (BodyStep.scriptAll steps).run_buffered (d.started settings request)
  rw [BodyStep.run_scriptAll] at hrun
  refine ⟨_, hrun, ?_, ?_, ?_⟩
  · rw [Buffered.head_foldl]
    rfl
  · rw [Buffered.committed_foldl]
    rfl
  · rw [Buffered.body_foldl (by simp [started])]
    rfl

/-- **The exits of an answer, in their order**, for every body that the description may have.
(1) If the condition holds, nothing but the common fields is sent. (2) Otherwise an error wins over
the body. In both cases the answer does not depend on the body. (3) Without a body the answer fails
and the response stays open and empty. (4) Otherwise the body is begun once, on a head that is sent
with status 200 and all fields, those about the data telling how the body is to be presented, what
type it is of and how long it is; the answer ends as the body does, which adds the bytes that it
writes and changes nothing else. -/
theorem respond_exits (d : Description) (settings : ResourceSettings) (request : Request)
    (h : d.DatesWritable request) :
    (d.NotModified request → ∀ body, { d with body }.respond settings request ({} : Buffered) =
      (.ok (), { head := ⟨304, ⟨d.commonFields request⟩⟩ })) ∧
    (¬d.NotModified request → ∀ code, d.errorCode = some code → ∃ b : Buffered,
      (∀ body, { d with body }.respond settings request ({} : Buffered) = (.ok (), b)) ∧
      b.head = ⟨code, ⟨d.commonFields request ++ errorFields d.errorMessage⟩⟩ ∧
      b.committed = true ∧ b.body = messageBytes d.errorMessage ∧
      b.head.headers.get? "content-disposition" = none ∧
      b.head.headers.get? "content-length" = none ∧
      b.head.headers.get? "content-type" = d.errorMessage.map fun _ => plainText) ∧
    (¬d.NotModified request → d.errorCode = none → d.body = none → ∃ b : Buffered,
      d.respond settings request ({} : Buffered) = (.error .missingBody, b) ∧
      b.head = ⟨200, ⟨d.commonFields request⟩⟩ ∧ b.committed = false ∧ b.body = []) ∧
    (¬d.NotModified request → d.errorCode = none → ∀ steps, d.body = some steps →
      ∃ s b : Buffered, s.committed = true ∧ s.body = [] ∧
      s.head = ⟨200, ⟨d.commonFields request ++ d.contentFields settings.mediaTypes⟩⟩ ∧
      s.head.headers.get? "content-disposition" =
        some (Disposition.headerValue d.disposition.word d.fileName) ∧
      s.head.headers.get? "content-type" =
        (d.shownType? settings.mediaTypes).filter Headers.isValue ∧
      s.head.headers.get? "content-length" =
        (if 0 ≤ d.contentLength then some (toString d.contentLength.toNat) else none) ∧
      d.respond settings request ({} : Buffered) = BodyStep.takeAll s steps ∧
      BodyStep.takeAll s steps = ((BodyStep.scriptAll steps).play.2, b) ∧
      b.head = s.head ∧ b.committed = true ∧
      b.body = (chunksAfter true (BodyStep.scriptAll steps).play.1).flatten) := by
  have hdates : ∀ body, { d with body }.DatesWritable request :=
    fun _ => ⟨h.received, h.modified, h.expiry⟩
  refine ⟨?_, ?_, ?_, ?_⟩
  · intro hcond body
    exact respond_of_notModified settings (hdates body) hcond
  · intro hcond code herror
    obtain ⟨hdisposition, hlength, htype⟩ := get?_errorFields d request d.errorMessage
    exact ⟨d.reported request code,
      fun body => respond_of_error settings (hdates body) hcond herror, rfl, rfl,
      List.append_nil _, hdisposition, hlength, htype⟩
  · intro hcond herror hbody
    exact ⟨_, respond_of_missing settings h hcond herror hbody, rfl, rfl, rfl⟩
  · intro hcond herror steps hbody
    obtain ⟨b, htake, hhead, hcommitted, hbytes⟩ := takeAll_started d settings request steps
    obtain ⟨hdisposition, htype, hlength⟩ := get?_contentFields d request settings.mediaTypes
    exact ⟨d.started settings request, b, rfl, rfl, rfl, hdisposition, htype, hlength,
      respond_of_body settings h hcond herror hbody, htake, hhead, hcommitted, hbytes⟩

/-- Four answers for one page, one by each exit. The page was modified a second before the request
was received, and its body goes on to change the status and a field after the head was sent, writes
two bytes and gives up. -/
theorem respond_exits_page :
    let page : Description :=
      { fileName := some "page.txt", textEncoding := some "utf-8", contentLength := 2,
        lastModified := some (.ofSeconds 784111777), lifetime := .ofSeconds 0,
        body := some [.command (.status 500), .command (.contentType "image/gif"),
          .command (.write [104, 105]), .fail (.stream (.other "lost"))] }
    let moved : Description := { page with errorCode := some 410, errorMessage := some "moved" }
    let bare : Description := { page with body := none }
    let request : Request := { path := "/page", received := .ofSeconds 784111778 }
    let since : Headers := ⟨[("if-modified-since", "Sun, 06 Nov 1994 08:49:37 GMT")]⟩
    let settings : ResourceSettings := ⟨.ofSeconds 0, {}⟩
    moved.respond settings { request with headers := since } ({} : Buffered) =
        (.ok (), { head := ⟨304, ⟨[("last-modified", "Sun, 06 Nov 1994 08:49:37 GMT"),
          ("date", "Sun, 06 Nov 1994 08:49:38 GMT"), ("expires", "Thu, 01 Jan 1970 00:00:00 GMT"),
          ("pragma", "no-cache"), ("cache-control", "no-cache, no-store")]⟩⟩ }) ∧
      (∃ b : Buffered, moved.respond settings request ({} : Buffered) = (.ok (), b) ∧
        b.head.status = 410 ∧ b.body = Utf8.ofString "moved" ∧
        b.head.headers.get? "content-type" = some plainText ∧
        b.head.headers.get? "content-length" = none) ∧
      (∃ b : Buffered, bare.respond settings request ({} : Buffered) = (.error .missingBody, b) ∧
        b.committed = false ∧ b.body = []) ∧
      ∃ b : Buffered,
        page.respond settings request ({} : Buffered) = (.error (.stream (.other "lost")), b) ∧
        b.head.status = 200 ∧ b.committed = true ∧ b.body = [104, 105] ∧
        b.head.headers.get? "content-disposition" = some "inline; filename=\"page.txt\"" ∧
        b.head.headers.get? "content-type" = some "text/plain; charset=utf-8" ∧
        b.head.headers.get? "content-length" = some "2" ∧
        b.head.headers.get? "last-modified" = some "Sun, 06 Nov 1994 08:49:37 GMT" := by
  intro page moved bare request since settings
  have hmodified : ∀ t, page.lastModified = some t → HttpDate.Writable t := by
    rintro t ⟨⟩
    exact ⟨by decide, by decide⟩
  have hdates : page.DatesWritable request :=
    ⟨⟨by decide, by decide⟩, hmodified, fun hlifetime => absurd rfl hlifetime⟩
  have hsince : moved.NotModified { request with headers := since } := by
    refine ⟨.ofSeconds 784111777, .ofSeconds 784111777, ?_, rfl, Int.le_refl _⟩
    decide +kernel
  have hnever : ¬page.NotModified request := by
    rintro ⟨asked, modified, hasked, -⟩
    exact nomatch hasked
  obtain ⟨hheld, -⟩ := respond_exits moved settings { request with headers := since }
    ⟨hdates.received, hmodified, hdates.expiry⟩
  obtain ⟨-, hreported, -⟩ := respond_exits moved settings request
    ⟨hdates.received, hmodified, hdates.expiry⟩
  obtain ⟨-, -, hmissing, -⟩ := respond_exits bare settings request
    ⟨hdates.received, hmodified, hdates.expiry⟩
  obtain ⟨-, -, -, hwritten⟩ := respond_exits page settings request hdates
  refine ⟨?_, ?_, ?_, ?_⟩
  · rw [hheld hsince moved.body]
    decide +kernel
  · obtain ⟨b, hall, hhead, -, hbody, -, hlength, htype⟩ := hreported hnever 410 rfl
    exact ⟨b, hall moved.body, by rw [hhead], hbody, htype, hlength⟩
  · obtain ⟨b, hrespond, -, hopen, hbody⟩ := hmissing hnever rfl rfl
    exact ⟨b, hrespond, hopen, hbody⟩
  · obtain ⟨s, b, -, -, hsent, hdisposition, htype, hlength, hrespond, htake, hhead, hcommitted,
      hbody⟩ := hwritten hnever rfl _ rfl
    refine ⟨b, hrespond.trans htake, ?_, hcommitted, ?_, ?_, ?_, ?_, ?_⟩
    · rw [hhead, hsent]
    · rw [hbody]
      decide
    · rw [hhead, hdisposition]
      decide +kernel
    · rw [hhead, htype]
      decide +kernel
    · rw [hhead, hlength]
      decide +kernel
    · rw [hhead, hsent]
      decide +kernel

end Description

end WebMount
