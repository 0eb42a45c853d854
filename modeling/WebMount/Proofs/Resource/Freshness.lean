import WebMount.Proofs.Resource.BuiltIn
import WebMount.Proofs.Text.Blank
import WebMount.Proofs.Text.Slice
import WebMount.Response.Freshness

/-!
# What is said about caching is consistent

A lifetime is cut to the longest one before anything is said about it. Then it is said twice: as
an age, rounded to the nearest second, and as a date, which shows the whole second it lies in.
Instants and lifetimes in milliseconds make these whole numbers (`roundedSeconds_ofMillis`,
`seconds_ofMillis`), so the age and the two dates are at most one second apart, and what caches
read in the fields is exactly these three (`ofHeaders?_cachedFields`).
-/

namespace WebMount

open WebMount.Response WebMount.Text WebMount.Time

/-! ### Milliseconds -/

namespace Time

/-- The number of milliseconds of the longest lifetime in a cache. -/
def maxMillis : Nat := 365 * 24 * 60 * 60 * 1000

theorem Duration.atMost_ofMillis (ms : Nat) :
    (Duration.ofMillis ms).atMost maxLifetime = .ofMillis (min ms maxMillis) := by
  have hmax : maxLifetime = .ofMillis maxMillis := rfl
  rw [hmax, atMost, ofMillis, ofMillis, ofMillis, Nat.mul_min_mul_right]

/-- Half a second is half a second, however coarse the seconds are. -/
theorem Duration.roundedSeconds_ofMillis (ms : Nat) :
    (Duration.ofMillis ms).roundedSeconds = (ms + 500) / 1000 := by
  have hwhole : (ofMillis ms).nanos / nanosPerSecond = ms / 1000 := by
    simp only [ofMillis, nanosPerMilli, nanosPerSecond]
    omega
  have hpart : (ofMillis ms).nanos % nanosPerSecond = ms % 1000 * 1000000 := by
    simp only [ofMillis, nanosPerMilli, nanosPerSecond]
    omega
  rw [roundedSeconds, hwhole, hpart]
  by_cases hcoarse : coarseSeconds ≤ ms / 1000
  · rw [if_pos hcoarse]
    split <;> omega
  · rw [if_neg hcoarse]
    split <;> omega

theorem Duration.nanos_ofMillis_eq_zero_iff {ms : Nat} :
    (Duration.ofMillis ms).nanos = 0 ↔ ms = 0 := by
  simp only [ofMillis, nanosPerMilli]
  omega

theorem Instant.after_ofMillis (n ms : Nat) :
    (Instant.ofMillis n).after (.ofMillis ms) = .ofMillis (n + ms : Nat) := by
  simp only [after, ofMillis, Duration.ofMillis, nanosPerMilli, mk.injEq]
  omega

theorem Instant.seconds_ofMillis (n : Nat) : (Instant.ofMillis n).seconds = (n / 1000 : Nat) := by
  simp only [seconds, ofMillis, nanosPerMilli, nanosPerSecond]
  omega

theorem HttpDate.writable_ofMillis {n : Nat} (h : n < endOfDates * 1000) :
    Writable (.ofMillis n) := by
  refine ⟨?_, ?_⟩
  · simp only [Instant.ofMillis, nanosPerMilli]
    omega
  · rw [Instant.seconds_ofMillis]
    omega

end Time

/-! ### What caches read -/

namespace Response

theorem parse?_dateText {t : Instant} (h : HttpDate.Writable t) :
    HttpDate.parse? (dateText t) = some (.ofSeconds t.seconds) := by
  obtain ⟨date, hdate⟩ := HttpDate.exists_format? h
  rw [dateText, hdate]
  exact HttpDate.parse?_of_format? hdate

/-- A directive with an argument, behind blanks. -/
theorem directive_append {blanks name argument : List Char}
    (hblanks : ∀ c ∈ blanks, isBlank c = true) (hname : Trimmed name) (hequals : '=' ∉ name)
    (hargument : Trimmed argument) : directive (blanks ++ (name ++ '=' :: argument)) =
      (String.ofList name, some (String.ofList argument)) := by
  have htrim : trim (blanks ++ (name ++ '=' :: argument)) = name ++ '=' :: argument := by
    have hfront := trim_append hblanks (fun c hc => absurd hc List.not_mem_nil)
      (name ++ '=' :: argument)
    rw [List.append_nil] at hfront
    exact hfront.trans (trim_eq_self (hname.append (by decide) hargument))
  rw [directive, htrim, splitFirst?_append argument hequals]

/-- The directives that let the caches of a scope keep a response. -/
theorem directives_maxAge (scope : CacheScope) (maxAge : Nat) :
    (splitAll ',' (s!"{scope.word}, max-age={maxAge}").toList).map directive =
      [(scope.word, none), ("max-age", some (toString maxAge))] := by
  have hdigits : ∀ c ∈ (toString maxAge).toList, c.isDigit = true := by
    intro c hc
    rw [Nat.toString_eq_repr, Nat.toList_repr] at hc
    exact Nat.isDigit_of_mem_toDigits (by decide) (by decide) hc
  have hnumber : Trimmed (toString maxAge).toList :=
    trimmed_of_forall fun c hc => isBlank_of_isDigit (hdigits c hc)
  have hname : Trimmed "max-age".toList := by
    refine ⟨fun c hc => ?_, fun c hc => ?_⟩
    · obtain rfl : 'm' = c := Option.some.inj hc
      rfl
    · obtain rfl : 'e' = c := Option.some.inj hc
      rfl
  have htext : (s!"{scope.word}, max-age={maxAge}").toList = scope.word.toList ++
      ',' :: ([' '] ++ ("max-age".toList ++ '=' :: (toString maxAge).toList)) := by
    simp [toString]
  have hcomma : ',' ∉ [' '] ++ ("max-age".toList ++ '=' :: (toString maxAge).toList) := by
    rw [List.mem_append, List.mem_append, not_or, not_or]
    refine ⟨by decide, by decide, fun hmem => ?_⟩
    rcases List.mem_cons.mp hmem with hequals | hdigit
    · exact absurd hequals (by decide)
    · exact absurd (hdigits ',' hdigit) (by decide)
  have hword : ',' ∉ scope.word.toList ∧ directive scope.word.toList = (scope.word, none) := by
    cases scope <;> decide
  have hblank : ∀ c ∈ [' '], isBlank c = true := List.forall_mem_singleton.mpr rfl
  rw [htext, splitAll_append _ hword.1, splitAll_of_not_mem hcomma, List.map_cons,
    List.map_singleton, hword.2, directive_append hblank hname (by decide) hnumber,
    String.ofList_toList, String.ofList_toList]

/-- The argument of the age is read back. -/
theorem maxAge?_eq {scope : CacheScope} {date expires : Instant} {pragma : Option String}
    (maxAge : Nat) : CacheTerms.maxAge? ⟨date, expires,
      [(scope.word, none), ("max-age", some (toString maxAge))], pragma⟩ = some maxAge := by
  have hword : ("max-age" == scope.word) = false := by cases scope <;> decide
  have hread : Number.parseNat? (toString maxAge).toList = some maxAge := by
    rw [Nat.toString_eq_repr, Nat.toList_repr]
    exact Number.parseNat?_renderNat maxAge
  rw [CacheTerms.maxAge?, List.lookup_cons, hword, List.lookup_cons, beq_self_eq_true]
  exact hread

/-- A response that may be kept, in the eyes of a cache. -/
theorem ofHeaders?_cachedFields {now : Instant} {lifetime : Duration} (scope : CacheScope)
    (hnow : HttpDate.Writable now) (hexpires : HttpDate.Writable (now.after lifetime)) :
    CacheTerms.ofHeaders? ⟨cachedFields lifetime scope now⟩ =
      some ⟨.ofSeconds now.seconds, .ofSeconds (now.after lifetime).seconds,
        [(scope.word, none), ("max-age", some (toString lifetime.roundedSeconds))],
        some "cache"⟩ := by
  have hdate : Headers.get? ⟨cachedFields lifetime scope now⟩ "date" = some (dateText now) := rfl
  have hexpiry : Headers.get? ⟨cachedFields lifetime scope now⟩ "expires" =
      some (dateText (now.after lifetime)) := rfl
  have hcontrol : Headers.get? ⟨cachedFields lifetime scope now⟩ "cache-control" =
      some s!"{scope.word}, max-age={lifetime.roundedSeconds}" := rfl
  have hpragma : Headers.get? ⟨cachedFields lifetime scope now⟩ "pragma" = some "cache" := rfl
  rw [CacheTerms.ofHeaders?, hdate, hexpiry, hcontrol, hpragma]
  simp only [bind, Option.bind, parse?_dateText hnow, parse?_dateText hexpires,
    directives_maxAge]
  rfl

/-- A response that may not be kept, in the eyes of a cache. -/
theorem ofHeaders?_uncachedFields {now : Instant} (hnow : HttpDate.Writable now) :
    CacheTerms.ofHeaders? ⟨uncachedFields now⟩ =
      some ⟨.ofSeconds now.seconds, .epoch, [("no-cache", none), ("no-store", none)],
        some "no-cache"⟩ := by
  have hdate : Headers.get? ⟨uncachedFields now⟩ "date" = some (dateText now) := rfl
  have hexpiry : Headers.get? ⟨uncachedFields now⟩ "expires" = some (dateText .epoch) := rfl
  have hcontrol : Headers.get? ⟨uncachedFields now⟩ "cache-control" =
      some "no-cache, no-store" := rfl
  have hpragma : Headers.get? ⟨uncachedFields now⟩ "pragma" = some "no-cache" := rfl
  have hepoch : HttpDate.Writable .epoch := ⟨by decide, by decide⟩
  have hdirectives : (splitAll ',' "no-cache, no-store".toList).map directive =
      [("no-cache", none), ("no-store", none)] := by decide
  rw [CacheTerms.ofHeaders?, hdate, hexpiry, hcontrol, hpragma]
  simp only [bind, Option.bind, parse?_dateText hnow, parse?_dateText hepoch, hdirectives]
  rfl

/-- What is to be told of a lifetime of `ms` milliseconds, to a request that was received at the
millisecond `n`. -/
def CacheTerms.ofMillis (scope : CacheScope) (n ms : Nat) : CacheTerms :=
  if ms = 0 then
    ⟨.ofSeconds (n / 1000 : Nat), .epoch, [("no-cache", none), ("no-store", none)],
      some "no-cache"⟩
  else
    ⟨.ofSeconds (n / 1000 : Nat), .ofSeconds ((n + min ms maxMillis) / 1000 : Nat),
      [(scope.word, none), ("max-age", some (toString ((min ms maxMillis + 500) / 1000)))],
      some "cache"⟩

end Response

namespace Description

/-! ### What is told -/

/-- The description tells caches these terms: its command about caching sets fields with these terms
on every sink, and every answer has them, whichever exit it takes. -/
structure Tells (d : Description) (request : Request) (terms : CacheTerms) : Prop where
  command : ∃ fields, StandFor [d.cachingCommand request] (headerOps fields) ∧
    CacheTerms.ofHeaders? ⟨fields⟩ = some terms
  answer : ∀ settings : ResourceSettings,
    (∀ t, d.lastModified = some t → HttpDate.Writable t) →
    CacheTerms.ofHeaders? (d.respond settings request ({} : Buffered)).2.head.headers = some terms

variable {d : Description} {request : Request}

theorem standFor_cachingCommand (hreceived : HttpDate.Writable request.received)
    (hexpiry : d.lifetime.nanos ≠ 0 →
      HttpDate.Writable (request.received.after (d.lifetime.atMost maxLifetime))) :
    StandFor [d.cachingCommand request] (headerOps (d.cachingFields request)) := by
  obtain ⟨date, hdate⟩ := HttpDate.exists_format? hreceived
  refine .of_ops ?_
  rw [cachingCommand, cachingFields]
  by_cases hzero : d.lifetime.nanos = 0
  · obtain ⟨epoch, hepoch⟩ := HttpDate.exists_format? (t := .epoch) ⟨by decide, by decide⟩
    rw [if_pos hzero, if_pos hzero]
    exact ops_disableCaching hdate hepoch
  · obtain ⟨expires, hexpires⟩ := HttpDate.exists_format? (hexpiry hzero)
    rw [if_neg hzero, if_neg hzero]
    exact ops_enableCaching hdate hexpires

/-- The terms of an answer are those of its fields about caching. -/
theorem ofHeaders?_respond (settings : ResourceSettings) (h : d.DatesWritable request) :
    CacheTerms.ofHeaders? (d.respond settings request ({} : Buffered)).2.head.headers =
      CacheTerms.ofHeaders? ⟨d.cachingFields request⟩ := by
  have hfield : ∀ name ∈ ["date", "expires", "cache-control", "pragma"],
      (d.respond settings request ({} : Buffered)).2.head.headers.get? name =
        Headers.get? ⟨d.cachingFields request⟩ name := by
    intro name hname
    have hcommon : name ∈ commonNames := List.mem_cons_of_mem _ hname
    have hother : "last-modified" ≠ name := by
      rintro rfl
      exact absurd hname (by decide)
    rw [get?_common_of_respond settings h hcommon, Headers.get?, Headers.get?,
      canonicalName_of_mem (.inl hcommon), commonFields]
    cases d.lastModified with
    | none => rfl
    | some t =>
      change List.lookup name (("last-modified", dateText t) :: d.cachingFields request) = _
      rw [List.lookup_cons, beq_false_of_ne hother.symm]
  rw [CacheTerms.ofHeaders?, CacheTerms.ofHeaders?, hfield "date" (by decide),
    hfield "expires" (by decide), hfield "cache-control" (by decide), hfield "pragma" (by decide)]

theorem tells_of_cachingFields {terms : CacheTerms} (hreceived : HttpDate.Writable request.received)
    (hexpiry : d.lifetime.nanos ≠ 0 →
      HttpDate.Writable (request.received.after (d.lifetime.atMost maxLifetime)))
    (hterms : CacheTerms.ofHeaders? ⟨d.cachingFields request⟩ = some terms) :
    d.Tells request terms where
  command := ⟨_, standFor_cachingCommand hreceived hexpiry, hterms⟩
  answer settings hmodified :=
    (ofHeaders?_respond settings ⟨hreceived, hmodified, hexpiry⟩).trans hterms

theorem tells_ofMillis {n ms : Nat} (hreceived : request.received = .ofMillis n)
    (hend : n + maxMillis < HttpDate.endOfDates * 1000) (hlifetime : d.lifetime = .ofMillis ms) :
    d.Tells request (.ofMillis d.scope n ms) := by
  have hnow : HttpDate.Writable request.received := by
    rw [hreceived]
    exact HttpDate.writable_ofMillis (by omega)
  have hlater : request.received.after (d.lifetime.atMost maxLifetime) =
      .ofMillis (n + min ms maxMillis : Nat) := by
    rw [hreceived, hlifetime, Duration.atMost_ofMillis, Instant.after_ofMillis]
  have hexpiry : HttpDate.Writable (request.received.after (d.lifetime.atMost maxLifetime)) := by
    rw [hlater]
    exact HttpDate.writable_ofMillis (by omega)
  refine tells_of_cachingFields hnow (fun _ => hexpiry) ?_
  rw [cachingFields, CacheTerms.ofMillis]
  by_cases hzero : ms = 0
  · have hnone : d.lifetime.nanos = 0 := by
      rw [hlifetime]
      exact Duration.nanos_ofMillis_eq_zero_iff.mpr hzero
    rw [if_pos hnone, if_pos hzero, ofHeaders?_uncachedFields hnow, hreceived,
      Instant.seconds_ofMillis]
  · have hsome : d.lifetime.nanos ≠ 0 := by
      rw [hlifetime]
      exact mt Duration.nanos_ofMillis_eq_zero_iff.mp hzero
    rw [if_neg hsome, if_neg hzero, ofHeaders?_cachedFields d.scope hnow hexpiry, hlater,
      hlifetime, Duration.atMost_ofMillis, Duration.roundedSeconds_ofMillis, hreceived,
      Instant.seconds_ofMillis, Instant.seconds_ofMillis]

/-- **What is said about caching does not contradict itself.** For a request that was received at
the millisecond `n`, what is told depends on the lifetime in milliseconds and on the scope. Without
a lifetime nothing may be kept, and the response expired at the epoch, whatever the scope. With one
the age is the lifetime, cut to 365 days, in seconds to the nearest one; the two dates are the
seconds in which the request was received and the lifetime is over. They are at most one second away
from the age, and not at all if the lifetime has whole seconds only. A longer lifetime never makes
the age or the date of expiry less. -/
theorem caching_consistent (d : Description) (request : Request) {n : Nat}
    (hreceived : request.received = .ofMillis n)
    (hend : n + maxMillis < HttpDate.endOfDates * 1000) :
    ∃ (terms : Nat → CacheTerms) (maxAge expires : Nat → Nat),
      (∀ ms, ({ d with lifetime := .ofMillis ms } : Description).Tells request (terms ms)) ∧
      terms 0 = ⟨.ofSeconds (n / 1000 : Nat), .epoch, [("no-cache", none), ("no-store", none)],
        some "no-cache"⟩ ∧
      (∀ ms, ms ≠ 0 → terms ms = ⟨.ofSeconds (n / 1000 : Nat), .ofSeconds (expires ms),
        [(d.scope.word, none), ("max-age", some (toString (maxAge ms)))], some "cache"⟩ ∧
        (terms ms).maxAge? = some (maxAge ms)) ∧
      (∀ ms, maxAge ms = (min ms maxMillis + 500) / 1000 ∧ maxAge ms ≤ 365 * 24 * 60 * 60 ∧
        expires ms = (n + min ms maxMillis) / 1000 ∧
        ((expires ms : Int) - (n / 1000 : Nat) - maxAge ms).natAbs ≤ 1 ∧
        (1000 ∣ ms → expires ms = n / 1000 + maxAge ms)) ∧
      ∀ ms ms', ms ≤ ms' → maxAge ms ≤ maxAge ms' ∧ expires ms ≤ expires ms' := by
  refine ⟨.ofMillis d.scope n, fun ms => (min ms maxMillis + 500) / 1000,
    fun ms => (n + min ms maxMillis) / 1000, fun ms => tells_ofMillis hreceived hend rfl, rfl,
    fun ms hms => ?_, fun ms => ?_, fun ms ms' hle => ?_⟩
  · rw [CacheTerms.ofMillis, if_neg hms]
    exact ⟨rfl, maxAge?_eq _⟩
  · have hmax : min ms maxMillis ≤ 31536000000 := Nat.min_le_right _ _
    have hwhole : 1000 ∣ ms → 1000 ∣ min ms maxMillis := by
      rw [maxMillis]
      omega
    dsimp only
    generalize min ms maxMillis = kept at hmax hwhole ⊢
    refine ⟨rfl, by omega, rfl, by omega, fun hms => ?_⟩
    have hkept := hwhole hms
    omega
  · have hkept : min ms maxMillis ≤ min ms' maxMillis := by omega
    exact ⟨Nat.div_le_div_right (by omega), Nat.div_le_div_right (by omega)⟩

/-- A second and a half from a quarter of a second on: the age is two seconds, while the two dates
are one second apart. -/
theorem caching_consistent_half :
    let d : Description := { lifetime := .ofMillis 1500, scope := .common }
    let request : Request := { path := "/", received := .ofMillis 784111777250 }
    request.received = .ofMillis (784111777250 : Nat) ∧
      784111777250 + maxMillis < HttpDate.endOfDates * 1000 ∧
      d.Tells request ⟨.ofSeconds 784111777, .ofSeconds 784111778,
        [("public", none), ("max-age", some "2")], some "cache"⟩ := by
  intro d request
  have hend : 784111777250 + maxMillis < HttpDate.endOfDates * 1000 := by decide
  obtain ⟨terms, maxAge, expires, htells, -, hterms, hnumbers, -⟩ :=
    caching_consistent d request rfl hend
  obtain ⟨hage, -, hexpires, -⟩ := hnumbers 1500
  have htold := htells 1500
  rw [(hterms 1500 (by decide)).1, hage, hexpires] at htold
  exact ⟨rfl, hend, htold⟩

end Description

end WebMount
