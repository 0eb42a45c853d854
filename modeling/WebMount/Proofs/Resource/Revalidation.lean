import WebMount.Proofs.Resource.Protocol

/-!
# Revalidation

A client that holds a response asks with the `Last-Modified` field of that response whether the
resource was modified since. The answer is exact to the second: the field shows the second in which
the resource was modified (`lastModified_of_respond`), it is read back as that second
(`Request.ifModifiedSince?_of_format?`), and the resource is compared without the part below a
second. Nothing else of the two descriptions matters, with one exception: a resource may report the
status 304 as an error of its own, which tells the client the same as a condition that holds
(`revalidation_of_reported`).
-/

namespace WebMount

open WebMount.Response WebMount.Time

/-- The request without its condition. -/
def Request.unconditional (r : Request) : Request :=
  { r with headers := ⟨without "if-modified-since" r.headers.fields⟩ }

theorem Request.ifModifiedSince?_unconditional (r : Request) :
    r.unconditional.ifModifiedSince? = none := by
  have hname : Headers.canonicalName "if-modified-since" = "if-modified-since" := by decide
  have hnone : r.unconditional.headers.get? "if-modified-since" = none := by
    rw [Headers.get?, hname, Request.unconditional, lookup_without, if_pos rfl]
  rw [Request.ifModifiedSince?, Headers.text?, hnone]
  rfl

/-- A field that holds a written date is read as the second that the date shows. -/
theorem Request.ifModifiedSince?_of_format? {r : Request} {t : Instant} {date : String}
    (hdate : HttpDate.format? t = some date)
    (hfield : r.headers.get? "if-modified-since" = some date) :
    r.ifModifiedSince? = some (.ofSeconds t.seconds) := by
  have htext : r.headers.text? "if-modified-since" = some date := by
    rw [Headers.text?, hfield, Option.filter, if_pos (HttpDate.isVisible_of_format? hdate)]
  rw [Request.ifModifiedSince?, htext, Option.bind_some, HttpDate.parse?_of_format? hdate]

namespace Description

variable {d : Description} {request : Request}

/-- The status of every answer, by the exit that it takes. -/
theorem status_of_respond (settings : ResourceSettings) (h : d.DatesWritable request) :
    (d.NotModified request →
      (d.respond settings request ({} : Buffered)).2.head.status = 304) ∧
    (¬d.NotModified request →
      (d.respond settings request ({} : Buffered)).2.head.status = d.errorCode.getD 200) := by
  constructor
  · intro hcond
    rw [respond_of_notModified settings h hcond]
  · intro hcond
    cases herror : d.errorCode with
    | some code =>
      rw [respond_of_error settings h hcond herror]
      rfl
    | none =>
      cases hbody : d.body with
      | none =>
        rw [respond_of_missing settings h hcond herror hbody]
        rfl
      | some steps =>
        obtain ⟨b, htake, hhead, -⟩ := takeAll_started d settings request steps
        rw [respond_of_body settings h hcond herror hbody, htake, hhead]
        rfl

/-- A resource that does not report 304 itself has that status exactly if the condition holds. -/
theorem status_eq_iff (settings : ResourceSettings) (h : d.DatesWritable request)
    (herror : d.errorCode ≠ some 304) :
    (d.respond settings request ({} : Buffered)).2.head.status = 304 ↔ d.NotModified request := by
  obtain ⟨hheld, hfailed⟩ := status_of_respond settings h
  refine ⟨fun hstatus => Classical.byContradiction fun hcond => ?_, hheld⟩
  rw [hfailed hcond] at hstatus
  cases hcode : d.errorCode with
  | none =>
    rw [hcode] at hstatus
    exact absurd hstatus (by decide)
  | some code =>
    rw [hcode] at hstatus herror
    exact herror (congrArg some hstatus)

/-- Every answer begins with the second in which the resource was modified, whichever exit it
takes. -/
theorem lastModified_of_respond (settings : ResourceSettings) (h : d.DatesWritable request)
    {t : Instant} (ht : d.lastModified = some t) :
    (d.respond settings request ({} : Buffered)).2.head.headers.get? "last-modified" =
      some (dateText t) := by
  have hname : Headers.canonicalName "last-modified" = "last-modified" := by decide
  have hfirst : ∀ more, Headers.get? ⟨d.commonFields request ++ more⟩ "last-modified" =
      some (dateText t) := by
    intro more
    rw [Headers.get?, hname, commonFields, ht]
    rfl
  have hcommon := hfirst []
  rw [List.append_nil] at hcommon
  by_cases hcond : d.NotModified request
  · rw [respond_of_notModified settings h hcond]
    exact hcommon
  · cases herror : d.errorCode with
    | some code =>
      rw [respond_of_error settings h hcond herror]
      exact hfirst _
    | none =>
      cases hbody : d.body with
      | none =>
        rw [respond_of_missing settings h hcond herror hbody]
        exact hcommon
      | some steps =>
        obtain ⟨b, htake, hhead, -⟩ := takeAll_started d settings request steps
        rw [respond_of_body settings h hcond herror hbody, htake, hhead]
        exact hfirst _

/-- A condition that does not hold makes no difference. -/
theorem respond_unconditional (settings : ResourceSettings) (h : d.DatesWritable request)
    (hcond : ¬d.NotModified request) : d.respond settings request ({} : Buffered) =
      d.respond settings request.unconditional ({} : Buffered) := by
  have hdates : d.DatesWritable request.unconditional := ⟨h.received, h.modified, h.expiry⟩
  have hnever : ¬d.NotModified request.unconditional := by
    rintro ⟨since, modified, hsince, -⟩
    rw [Request.ifModifiedSince?_unconditional] at hsince
    exact absurd hsince (by simp)
  rw [respond_of_modified settings h hcond, respond_of_modified settings hdates hnever]
  rfl

/-- The condition of a request that names the second of one instant holds for a resource that was
modified at another exactly if that is not in a later second. -/
theorem notModified_iff {since t : Instant} (h : d.DatesWritable request)
    (hsince : request.ifModifiedSince? = some (.ofSeconds since.seconds))
    (ht : d.lastModified = some t) : d.NotModified request ↔ t.seconds ≤ since.seconds := by
  have htruncate : t.truncate = .ofSeconds t.seconds :=
    Instant.truncate_of_nonneg (h.modified t ht).1
  -- both sides of the comparison are whole seconds
  constructor
  · rintro ⟨asked, modified, hasked, hmodified, hle⟩
    obtain rfl := Option.some.inj (hsince.symm.trans hasked)
    obtain rfl := Option.some.inj (ht.symm.trans hmodified)
    rw [htruncate] at hle
    simp only [Instant.ofSeconds, nanosPerSecond] at hle
    omega
  · intro hle
    refine ⟨_, _, hsince, ht, ?_⟩
    rw [htruncate]
    simp only [Instant.ofSeconds, nanosPerSecond]
    omega

/-- **Revalidation is exact to the second.** Of two descriptions, the first was modified at `t₁` and
the second at `t₂`. Take any request whose condition is the `Last-Modified` field of the first. If
the second of `t₂` is not after that of `t₁`, the second resource is answered not to be modified,
and otherwise as if the request had no condition. So the status is 304 exactly in the first case,
unless the second resource reports that very status as an error. -/
theorem revalidation_exact {d₁ d₂ : Description} {request₁ request₂ : Request} {t₁ t₂ : Instant}
    (settings₁ settings₂ : ResourceSettings) (h₁ : d₁.DatesWritable request₁)
    (h₂ : d₂.DatesWritable request₂) (ht₁ : d₁.lastModified = some t₁)
    (ht₂ : d₂.lastModified = some t₂) :
    ∃ validator, (d₁.respond settings₁ request₁ ({} : Buffered)).2.head.headers.get?
        "last-modified" = some validator ∧
      (request₂.headers.get? "if-modified-since" = some validator →
        (d₂.errorCode ≠ some 304 →
          ((d₂.respond settings₂ request₂ ({} : Buffered)).2.head.status = 304 ↔
            t₂.seconds ≤ t₁.seconds)) ∧
        (t₂.seconds ≤ t₁.seconds → d₂.respond settings₂ request₂ ({} : Buffered) =
          (.ok (), { head := ⟨304, ⟨d₂.commonFields request₂⟩⟩ })) ∧
        (t₁.seconds < t₂.seconds → d₂.respond settings₂ request₂ ({} : Buffered) =
          d₂.respond settings₂ request₂.unconditional ({} : Buffered))) := by
  refine ⟨dateText t₁, lastModified_of_respond settings₁ h₁ ht₁, fun hfield => ?_⟩
  obtain ⟨date, hdate⟩ := HttpDate.exists_format? (h₁.modified t₁ ht₁)
  have hvalidator : dateText t₁ = date := by rw [dateText, hdate, Option.getD_some]
  have hsince : request₂.ifModifiedSince? = some (.ofSeconds t₁.seconds) :=
    Request.ifModifiedSince?_of_format? hdate (by rw [hfield, hvalidator])
  have hcond := notModified_iff h₂ hsince ht₂
  refine ⟨fun herror => ?_, fun hle => ?_, fun hlater => ?_⟩
  · rw [status_eq_iff settings₂ h₂ herror, hcond]
  · exact respond_of_notModified settings₂ h₂ (hcond.mpr hle)
  · exact respond_unconditional settings₂ h₂ fun hheld => absurd (hcond.mp hheld) (by omega)

/-- A page that is modified a quarter of a second after a second begins is not sent again to a
client that names that second, although the page then has an error to report; one that is modified
a second later reports it. -/
theorem revalidation_exact_page :
    let page : Description :=
      { lastModified := some (.ofMillis 784111777250), lifetime := .ofSeconds 60 }
    let broken : Description := { page with errorCode := some 500 }
    let later : Description := { broken with lastModified := some (.ofMillis 784111778250) }
    let request : Request := { path := "/page", received := .ofSeconds 784111800 }
    let headers : Headers := ⟨[("if-modified-since", "Sun, 06 Nov 1994 08:49:37 GMT")]⟩
    let settings : ResourceSettings := ⟨.ofSeconds 0, {}⟩
    (broken.respond settings { request with headers } ({} : Buffered)).2.head.status = 304 ∧
      (later.respond settings { request with headers } ({} : Buffered)).2.head.status ≠ 304 ∧
      later.respond settings { request with headers } ({} : Buffered) =
        later.respond settings request ({} : Buffered) := by
  intro page broken later request headers settings
  have hreceived : HttpDate.Writable request.received := ⟨by decide, by decide⟩
  have hdates : page.DatesWritable request := by
    refine ⟨hreceived, ?_, fun _ => ⟨by decide, by decide⟩⟩
    rintro t ⟨⟩
    exact ⟨by decide, by decide⟩
  have hbroken : broken.DatesWritable { request with headers } :=
    ⟨hdates.received, hdates.modified, hdates.expiry⟩
  have hlater : later.DatesWritable { request with headers } := by
    refine ⟨hreceived, ?_, hdates.expiry⟩
    rintro t ⟨⟩
    exact ⟨by decide, by decide⟩
  obtain ⟨validator, hvalidator, hsame⟩ :=
    revalidation_exact settings settings hdates hbroken rfl rfl
  obtain ⟨again, hagain, hnext⟩ := revalidation_exact settings settings hdates hlater rfl rfl
  have htext : dateText (.ofMillis 784111777250) = "Sun, 06 Nov 1994 08:49:37 GMT" := by
    decide +kernel
  rw [lastModified_of_respond _ hdates rfl, htext] at hvalidator hagain
  obtain rfl := Option.some.inj hvalidator
  obtain rfl := Option.some.inj hagain
  have hfield : headers.get? "if-modified-since" = some "Sun, 06 Nov 1994 08:49:37 GMT" := by
    decide
  obtain ⟨hstatus, -⟩ := hsame hfield
  obtain ⟨hother, -, hunconditional⟩ := hnext hfield
  refine ⟨(hstatus (by decide)).mpr (Int.le_refl _), fun h => ?_, ?_⟩
  · exact absurd ((hother (by decide)).mp h) (by decide)
  · rw [hunconditional (by decide)]
    rfl

/-- A page that reports the status 304 as an error has it although it was modified in a later second
than the client names. -/
theorem revalidation_of_reported :
    let page : Description :=
      { lastModified := some (.ofMillis 784111777250), lifetime := .ofSeconds 60 }
    let reporting : Description :=
      { page with lastModified := some (.ofMillis 784111778250), errorCode := some 304 }
    let request : Request := { path := "/page", received := .ofSeconds 784111800 }
    let headers : Headers := ⟨[("if-modified-since", "Sun, 06 Nov 1994 08:49:37 GMT")]⟩
    let settings : ResourceSettings := ⟨.ofSeconds 0, {}⟩
    page.DatesWritable request ∧ reporting.DatesWritable { request with headers } ∧
      (page.respond settings request ({} : Buffered)).2.head.headers.get? "last-modified" =
        headers.get? "if-modified-since" ∧
      ¬((reporting.respond settings { request with headers } ({} : Buffered)).2.head.status = 304 ↔
        (Instant.ofMillis 784111778250).seconds ≤ (Instant.ofMillis 784111777250).seconds) := by
  intro page reporting request headers settings
  have hreceived : HttpDate.Writable request.received := ⟨by decide, by decide⟩
  have hdates : page.DatesWritable request := by
    refine ⟨hreceived, ?_, fun _ => ⟨by decide, by decide⟩⟩
    rintro t ⟨⟩
    exact ⟨by decide, by decide⟩
  have hreporting : reporting.DatesWritable { request with headers } := by
    refine ⟨hreceived, ?_, hdates.expiry⟩
    rintro t ⟨⟩
    exact ⟨by decide, by decide⟩
  have htext : dateText (.ofMillis 784111777250) = "Sun, 06 Nov 1994 08:49:37 GMT" := by
    decide +kernel
  refine ⟨hdates, hreporting, ?_, fun hiff => absurd (hiff.mp ?_) (by decide)⟩
  · rw [lastModified_of_respond _ hdates rfl, htext]
    decide
  · -- whether or not the condition holds, the status is the same
    obtain ⟨hheld, hfailed⟩ := status_of_respond settings hreporting
    by_cases hcond : reporting.NotModified { request with headers }
    · exact hheld hcond
    · exact hfailed hcond

end Description

end WebMount
