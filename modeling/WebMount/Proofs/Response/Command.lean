import WebMount.Proofs.Response.Buffered
import WebMount.Proofs.Response.Disposition
import WebMount.Time.HttpDate

/-!
# Commands that write header fields

Commands **stand for** operations if they perform these on every sink. They **write** fields if they
succeed on every buffered response that is not committed and do nothing to it but set the fields in
order. Commands one after the other write their fields one after the other (`Writes.append`), and
each command about the header writes the fields that it is named for, as long as the dates among
them can be written.
-/

namespace WebMount.Response

open WebMount.Time

/-- Commands after others, which are not performed if one of those before does not succeed. -/
theorem performAll_append {σ : Type} [Sink σ] (s : σ) (cs ds : List Command) :
    performAll s (cs ++ ds) =
      match performAll s cs with
      | (.ok (), s) => performAll s ds
      | (.error failure, s) => (.error failure, s) := by
  induction cs generalizing s with
  | nil => rfl
  | cons c cs ih =>
    rw [List.cons_append, performAll, performAll]
    obtain ⟨result, t⟩ := perform s c
    cases result with
    | ok => exact ih t
    | error failure => rfl

/-- Operations after others, which are not performed if one of those before fails. -/
theorem run_append {σ : Type} [Sink σ] (s : σ) (before after : List Op) :
    run s (before ++ after) =
      match run s before with
      | (.ok (), s) => run s after
      | (.error cause, s) => (.error cause, s) := by
  induction before generalizing s with
  | nil => rfl
  | cons op before ih =>
    rw [List.cons_append, run, run]
    obtain ⟨result, t⟩ := Sink.step s op
    cases result with
    | ok => exact ih t
    | error cause => rfl

/-- The commands perform exactly these operations on every sink, up to the first one that fails. -/
def StandFor (cs : List Command) (ops : List Op) : Prop :=
  ∀ (σ : Type) [Sink σ] (s : σ), performAll s cs = ((run s ops).1.mapError .io, (run s ops).2)

theorem StandFor.of_ops {c : Command} {ops : List Op} (h : c.ops = .ok ops) :
    StandFor [c] ops := by
  intro σ _ s
  simp only [performAll, perform, h]
  obtain ⟨result, t⟩ := run s ops
  cases result <;> rfl

theorem StandFor.append {cs ds : List Command} {ops more : List Op} (hc : StandFor cs ops)
    (hd : StandFor ds more) : StandFor (cs ++ ds) (ops ++ more) := by
  intro σ _ s
  rw [performAll_append, hc σ s, run_append]
  obtain ⟨result, t⟩ := run s ops
  cases result with
  | ok => exact hd σ t
  | error cause => rfl

/-- The operations that set fields. -/
def headerOps (fields : List (String × String)) : List Op :=
  fields.map fun f => .header f.1 f.2

/-- The commands set exactly these fields of a response that is not committed. -/
def Writes (cs : List Command) (fields : List (String × String)) : Prop :=
  ∀ b : Buffered, b.committed = false → performAll b cs =
    (.ok (), { b with head := ⟨b.head.status, b.head.headers.setAll fields⟩ })

theorem Writes.nil : Writes [] [] :=
  fun _ _ => rfl

/-- A command whose operations set fields. -/
theorem Writes.of_ops {c : Command} {fields : List (String × String)}
    (h : c.ops = .ok (headerOps fields)) : Writes [c] fields := by
  intro b hb
  simp only [performAll, perform_buffered h, headerOps, Buffered.foldl_header hb]

theorem Writes.append {cs ds : List Command} {fields more : List (String × String)}
    (hc : Writes cs fields) (hd : Writes ds more) : Writes (cs ++ ds) (fields ++ more) := by
  intro b hb
  have hnext : ({ b with head := ⟨b.head.status, b.head.headers.setAll fields⟩ } :
      Buffered).committed = false := hb
  rw [performAll_append, hc b hb]
  exact (hd _ hnext).trans (by simp only [Headers.setAll, List.foldl_append])

/-! ### The commands about the header -/

/-- The text that shows an instant, which is empty if the instant cannot be written. -/
def dateText (t : Instant) : String :=
  (HttpDate.format? t).getD ""

theorem dateHeader_of_some {t : Instant} {date : String} (h : HttpDate.format? t = some date)
    (name : String) : dateHeader name t = .ok (.header name (dateText t)) := by
  rw [dateHeader, dateText, h]
  rfl

theorem writes_lastModified {t : Instant} {date : String} (h : HttpDate.format? t = some date) :
    Writes [.lastModified t] [("last-modified", dateText t)] := by
  refine .of_ops ?_
  rw [Command.ops, dateHeader_of_some h]
  rfl

/-- The fields that let caches keep a response for a lifetime that is not too long. -/
def cachedFields (lifetime : Duration) (scope : CacheScope) (now : Instant) :
    List (String × String) :=
  [("date", dateText now), ("expires", dateText (now.after lifetime)),
    ("cache-control", s!"{scope.word}, max-age={lifetime.roundedSeconds}"), ("pragma", "cache")]

theorem ops_enableCaching {lifetime : Duration} {scope : CacheScope} {now : Instant}
    {date expires : String} (hdate : HttpDate.format? now = some date)
    (hexpires : HttpDate.format? (now.after (lifetime.atMost maxLifetime)) = some expires) :
    (Command.enableCaching lifetime scope now).ops =
      .ok (headerOps (cachedFields (lifetime.atMost maxLifetime) scope now)) := by
  simp only [Command.ops, enableCaching, dateHeader_of_some hdate, dateHeader_of_some hexpires]
  rfl

theorem writes_enableCaching {lifetime : Duration} {scope : CacheScope} {now : Instant}
    {date expires : String} (hdate : HttpDate.format? now = some date)
    (hexpires : HttpDate.format? (now.after (lifetime.atMost maxLifetime)) = some expires) :
    Writes [.enableCaching lifetime scope now]
      (cachedFields (lifetime.atMost maxLifetime) scope now) :=
  .of_ops (ops_enableCaching hdate hexpires)

/-- The fields that keep a response out of all caches. -/
def uncachedFields (now : Instant) : List (String × String) :=
  [("date", dateText now), ("expires", dateText .epoch), ("pragma", "no-cache"),
    ("cache-control", "no-cache, no-store")]

theorem ops_disableCaching {now : Instant} {date expires : String}
    (hdate : HttpDate.format? now = some date) (hepoch : HttpDate.format? .epoch = some expires) :
    (Command.disableCaching now).ops = .ok (headerOps (uncachedFields now)) := by
  simp only [Command.ops, disableCaching, dateHeader_of_some hdate, dateHeader_of_some hepoch]
  rfl

theorem writes_disableCaching {now : Instant} {date expires : String}
    (hdate : HttpDate.format? now = some date) (hepoch : HttpDate.format? .epoch = some expires) :
    Writes [.disableCaching now] (uncachedFields now) :=
  .of_ops (ops_disableCaching hdate hepoch)

/-- A content type is set if there is one and it can be the value of a field. -/
theorem writes_contentType (contentType : Option String) :
    Writes (contentType.toList.map .contentType)
      ((contentType.filter Headers.isValue).toList.map fun value => ("content-type", value)) := by
  cases contentType with
  | none => exact .nil
  | some value =>
    refine .of_ops ?_
    rw [Command.ops, textHeader]
    cases hvalue : Headers.isValue value <;> simp [headerOps, Option.filter, hvalue]

theorem writes_contentLength (length : Nat) :
    Writes [.contentLength length] [("content-length", toString length)] :=
  .of_ops rfl

/-- The presentation of the body is always set. -/
theorem writes_disposition (kind : Disposition) (fileName : Option String) :
    Writes [.disposition kind fileName]
      [("content-disposition", Disposition.headerValue kind.word fileName)] := by
  refine .of_ops ?_
  rw [Command.ops, textHeader, if_pos (Headers.isValue_disposition kind fileName)]
  rfl

/-! ### The bytes of a command -/

private theorem bind_eq_ok {ε α β : Type} {x : Except ε α} {f : α → Except ε β} {r : β} :
    x >>= f = .ok r ↔ ∃ a, x = .ok a ∧ f a = .ok r := by
  cases x with
  | error e => simp [bind, Except.bind]
  | ok a => simp [bind, Except.bind]

/-- An operation that shows a date writes nothing. -/
private theorem bytes_of_dateHeader {name : String} {t : Instant} {op : Op}
    (h : dateHeader name t = .ok op) : op.bytes = [] := by
  rw [dateHeader] at h
  split at h
  · obtain rfl := Except.ok.inj h
    rfl
  · exact absurd h (by simp)

/-- The operations of a command write the bytes of the command. -/
theorem Command.bytes_of_ops {c : Command} {ops : List Op} (h : c.ops = .ok ops) :
    ops.flatMap Op.bytes = c.bytes := by
  have htext : ∀ name value, (textHeader name value).flatMap Op.bytes = [] := by
    intro name value
    rw [textHeader]
    split <;> rfl
  have hdate : ∀ {name t}, (dateHeader name t).map ([·]) = .ok ops → ops.flatMap Op.bytes = [] := by
    intro name t hops
    cases hop : dateHeader name t with
    | error defect => rw [hop] at hops; exact absurd hops (by simp [Except.map])
    | ok op =>
      rw [hop] at hops
      obtain rfl := Except.ok.inj hops
      simp [bytes_of_dateHeader hop]
  -- every command but a write is about the head alone, or an error, whose message is no write
  cases c with
  | status code => obtain rfl := Except.ok.inj h; rfl
  | error code message => obtain rfl := Except.ok.inj h; rfl
  | header name value => obtain rfl := Except.ok.inj h; exact htext _ _
  | date name t => exact hdate h
  | lastModified t => exact hdate h
  | contentType value => obtain rfl := Except.ok.inj h; exact htext _ _
  | contentLength length => obtain rfl := Except.ok.inj h; rfl
  | disposition kind fileName => obtain rfl := Except.ok.inj h; exact htext _ _
  | write bytes => obtain rfl := Except.ok.inj h; exact List.append_nil bytes
  | flush => obtain rfl := Except.ok.inj h; rfl
  | enableCaching lifetime scope now =>
    obtain ⟨date, hd, h⟩ := bind_eq_ok.mp h
    obtain ⟨expires, he, h⟩ := bind_eq_ok.mp h
    obtain rfl := Except.ok.inj h
    rw [List.flatMap_cons, bytes_of_dateHeader hd, List.flatMap_cons, bytes_of_dateHeader he]
    rfl
  | disableCaching now =>
    obtain ⟨date, hd, h⟩ := bind_eq_ok.mp h
    obtain ⟨expires, he, h⟩ := bind_eq_ok.mp h
    obtain rfl := Except.ok.inj h
    rw [List.flatMap_cons, bytes_of_dateHeader hd, List.flatMap_cons, bytes_of_dateHeader he]
    rfl

/-- A command that crashes writes nothing. -/
theorem Command.bytes_of_crash {c : Command} {defect : Crash} (h : c.ops = .error defect) :
    c.bytes = [] := by
  cases c with
  | write bytes => exact absurd h (by simp [Command.ops])
  | _ => rfl

end WebMount.Response
