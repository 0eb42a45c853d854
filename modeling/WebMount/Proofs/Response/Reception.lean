import WebMount.Proofs.Response.Streaming

/-!
# What a link carries

However the two ends of a link take turns, it loses nothing and reorders nothing: what the receiver
took, followed by what is in flight, is what was sent (`Link.Carries`). The head arrives before
any chunk and once, the body is complete only when the response is closed and nothing is in flight,
and a receiver that went away took the beginning of what was sent. The laws below say that every
step at either end keeps to this.
-/

namespace WebMount.Response

theorem flatMap_bytes_items (chunks : List Bytes) :
    (chunks.map Item.chunk).flatMap Item.bytes = chunks.flatten := by
  rw [List.flatMap_map]
  exact List.flatMap_id

theorem flatMap_bytes_arrivals (chunks : List Bytes) :
    (chunks.map Arrival.chunk).flatMap Arrival.bytes = chunks.flatten := by
  rw [List.flatMap_map]
  exact List.flatMap_id

/-- Where the chunks of a body end is told by the first item that is no chunk. -/
theorem chunks_append_inj {taken chunks : List Bytes} {ends rest : List Item}
    (hends : ∀ bytes tail, ends ≠ .chunk bytes :: tail)
    (hrest : ∀ bytes tail, rest ≠ .chunk bytes :: tail)
    (h : taken.map .chunk ++ ends = chunks.map .chunk ++ rest) : taken = chunks ∧ ends = rest := by
  induction taken generalizing chunks with
  | nil =>
    cases chunks with
    | nil => exact ⟨rfl, h⟩
    | cons bytes chunks => exact absurd h (hends _ _)
  | cons bytes taken ih =>
    cases chunks with
    | nil => exact absurd h.symm (hrest _ _)
    | cons other chunks =>
      obtain ⟨hitem, htail⟩ := List.cons.inj h
      obtain ⟨rfl, rfl⟩ := ih htail
      exact ⟨congrArg (· :: taken) (Item.chunk.inj hitem), rfl⟩

/-- Chunks at the front of items are chunks at the front of those that the items begin with. -/
theorem chunks_prefix {taken chunks : List Bytes} {ends : List Item}
    (hends : ∀ bytes tail, ends ≠ .chunk bytes :: tail)
    (h : taken.map .chunk <+: chunks.map .chunk ++ ends) : taken <+: chunks := by
  induction taken generalizing chunks with
  | nil => exact List.nil_prefix
  | cons bytes taken ih =>
    obtain ⟨more, hmore⟩ := h
    cases chunks with
    | nil => exact absurd hmore.symm (hends _ _)
    | cons other chunks =>
      obtain ⟨hitem, htail⟩ := List.cons.inj hmore
      obtain rfl := Item.chunk.inj hitem
      exact List.cons_prefix_cons.mpr ⟨rfl, ih ⟨more, htail⟩⟩

/-- No chunk tells a failure. -/
theorem chunks_ne_failure {chunks taken : List Bytes} {cause : IoError} {rest : List Item} :
    chunks.map .chunk ≠ taken.map .chunk ++ .failure cause :: rest := by
  intro h
  have hmem : Item.failure cause ∈ chunks.map .chunk := by
    rw [h]
    exact List.mem_append_right _ List.mem_cons_self
  obtain ⟨bytes, -, hbytes⟩ := List.mem_map.mp hmem
  exact absurd hbytes (by simp)

namespace Link

/-- The link carries the items that were sent on it, `closed` or not, in one of the phases of its
receiver. -/
inductive Carries (items : List Item) (closed : Bool) : Link → Prop where
  /-- Nothing was sent. -/
  | silent (head : Head) (capacity : Nat) (hitems : items = []) :
      Carries items closed ⟨⟨head, false, ⟨none, [], capacity, true⟩⟩, .waiting, []⟩
  /-- The head is on its way. -/
  | sent (head : Head) (capacity : Nat) :
      Carries items closed ⟨⟨head, true, ⟨some head, items, capacity, true⟩⟩, .waiting, []⟩
  /-- The head has arrived, and chunks behind it. -/
  | begun (head : Head) (capacity : Nat) (taken : List Bytes) (flight : List Item)
      (hitems : items = taken.map .chunk ++ flight) :
      Carries items closed ⟨⟨head, true, ⟨none, flight, capacity, true⟩⟩, .reading,
        .head head :: taken.map .chunk⟩
  /-- The response was closed without a head. -/
  | refused (head : Head) (capacity : Nat) (hclosed : closed = true) (hitems : items = []) :
      Carries items closed ⟨⟨head, false, ⟨none, [], capacity, true⟩⟩, .finished, [.refused]⟩
  /-- All that was sent has arrived. -/
  | completed (head : Head) (capacity : Nat) (taken : List Bytes) (hclosed : closed = true)
      (hitems : items = taken.map .chunk) :
      Carries items closed ⟨⟨head, true, ⟨none, [], capacity, true⟩⟩, .finished,
        .head head :: taken.map .chunk ++ [.complete]⟩
  /-- A failure has arrived. -/
  | failed (head : Head) (capacity : Nat) (taken : List Bytes) (cause : IoError) (rest : List Item)
      (hitems : items = taken.map .chunk ++ .failure cause :: rest) :
      Carries items closed ⟨⟨head, true, ⟨none, rest, capacity, true⟩⟩, .finished,
        .head head :: taken.map .chunk ++ [.failure cause]⟩
  /-- The receiver went away before the head arrived. -/
  | leftWaiting (sink : Streaming) (hreceived : sink.channel.received = false) :
      Carries items closed ⟨sink, .gone, []⟩
  /-- The receiver went away while it read the body. -/
  | leftReading (head : Head) (capacity : Nat) (taken : List Bytes) (rest : List Item)
      (hitems : items = taken.map .chunk ++ rest) :
      Carries items closed ⟨⟨head, true, ⟨none, [], capacity, false⟩⟩, .gone,
        .head head :: taken.map .chunk⟩

namespace Carries

variable {items : List Item} {closed : Bool} {l : Link}

theorem create (capacity : Nat) : Carries [] false (Link.create capacity) :=
  .silent _ _ rfl

/-- The receiver is there as long as it did not go away. -/
theorem received_iff (h : Carries items closed l) :
    l.sink.channel.received = true ↔ l.receiver ≠ .gone := by
  cases h with
  | leftWaiting sink hreceived => simp [hreceived]
  | _ => simp

/-- Closing the response changes nothing for what is under way. -/
theorem close (h : Carries items false l) : Carries items true l := by
  cases h with
  | silent head capacity hitems => exact .silent head capacity hitems
  | sent head capacity => exact .sent head capacity
  | begun head capacity taken flight hitems => exact .begun head capacity taken flight hitems
  | refused head capacity hclosed => exact absurd hclosed Bool.false_ne_true
  | completed head capacity taken hclosed => exact absurd hclosed Bool.false_ne_true
  | failed head capacity taken cause rest hitems =>
    exact .failed head capacity taken cause rest hitems
  | leftWaiting sink hreceived => exact .leftWaiting sink hreceived
  | leftReading head capacity taken rest hitems =>
    exact .leftReading head capacity taken rest hitems

/-- The receiver takes what comes next. -/
theorem take (h : Carries items closed l) {t : Link} (ht : l.take? closed = some t) :
    Carries items closed t := by
  cases h with
  | silent head capacity hitems =>
    cases closed with
    | false => exact absurd ht (by simp [Link.take?, Receiver.take])
    | true =>
      obtain rfl := Option.some.inj ht
      exact .refused head capacity rfl hitems
  | sent head capacity =>
    obtain rfl := Option.some.inj ht
    exact .begun head capacity [] items rfl
  | begun head capacity taken flight hitems =>
    cases flight with
    | nil =>
      cases closed with
      | false => exact absurd ht (by simp [Link.take?, Receiver.take])
      | true =>
        obtain rfl := Option.some.inj ht
        exact .completed head capacity taken rfl (by rw [hitems, List.append_nil])
    | cons item flight =>
      cases item with
      | chunk bytes =>
        obtain rfl := Option.some.inj ht
        -- the item in front of the flight joins those that were taken
        have harrivals : Arrival.head head :: taken.map .chunk ++ [.chunk bytes] =
            .head head :: (taken ++ [bytes]).map .chunk := by simp
        dsimp only
        rw [harrivals]
        exact .begun head capacity (taken ++ [bytes]) flight (by simp [hitems])
      | failure cause =>
        obtain rfl := Option.some.inj ht
        exact .failed head capacity taken cause flight hitems
  | refused | completed | failed | leftWaiting | leftReading =>
    exact absurd ht (by simp [Link.take?, Receiver.take])

/-- The receiver goes away, before or while it reads. -/
theorem leave (h : Carries items closed l) (hthere : l.receiver = .waiting ∨ l.receiver = .reading) :
    Carries items closed { l with sink := l.sink.dropReceiver, receiver := .gone } := by
  cases h with
  | silent head capacity hitems => exact .leftWaiting _ rfl
  | sent head capacity => exact .leftWaiting _ rfl
  | begun head capacity taken flight hitems => exact .leftReading head capacity taken flight hitems
  | refused | completed | failed | leftWaiting | leftReading => exact absurd hthere (by simp)

/-- The writer sends the head. -/
theorem commit (h : Carries items false l) :
    Carries items false { l with sink := l.sink.commit } := by
  cases h with
  | silent head capacity hitems =>
    subst hitems
    exact .sent head capacity
  | refused head capacity hclosed => exact absurd hclosed Bool.false_ne_true
  | sent head capacity => exact .sent head capacity
  | begun head capacity taken flight hitems => exact .begun head capacity taken flight hitems
  | completed head capacity taken hclosed => exact absurd hclosed Bool.false_ne_true
  | failed head capacity taken cause rest hitems =>
    exact .failed head capacity taken cause rest hitems
  | leftWaiting sink hreceived =>
    -- the head is lost
    refine .leftWaiting _ ?_
    rw [Streaming.commit]
    split
    · exact hreceived
    · exact hreceived
  | leftReading head capacity taken rest hitems =>
    exact .leftReading head capacity taken rest hitems

/-- The writer changes a head that it did not send. -/
theorem edit (h : Carries items false l) (hopen : l.sink.committed = false) (head : Head) :
    Carries items false { l with sink := { l.sink with head } } := by
  cases h with
  | silent _ capacity hitems => exact .silent head capacity hitems
  | refused _ capacity hclosed => exact absurd hclosed Bool.false_ne_true
  | leftWaiting sink hreceived => exact .leftWaiting _ hreceived
  | sent | begun | completed | failed | leftReading => exact absurd hopen (by simp)

/-- The writer begins an operation. -/
theorem prepare (h : Carries items false l) (op : Op) :
    Carries items false { l with sink := l.sink.prepare op } := by
  cases op with
  | status code =>
    rw [Streaming.prepare]
    split
    · exact h
    · next hopen => exact h.edit (Bool.eq_false_iff.mpr hopen) _
  | header name value =>
    rw [Streaming.prepare]
    split
    · exact h
    · next hopen => exact h.edit (Bool.eq_false_iff.mpr hopen) _
  | error code message =>
    rw [Streaming.prepare]
    split
    · exact h
    · next hopen => exact (h.edit (Bool.eq_false_iff.mpr hopen) _).commit
  | write bytes => exact h.commit
  | flush => exact h.commit

/-- The writer sends an item behind the head, to a receiver that is there. -/
theorem send (h : Carries items false l) (hcommitted : l.sink.committed = true)
    (hreceived : l.sink.channel.received = true) (item : Item) :
    Carries (items ++ [item]) false { l with sink := (l.sink.send item).2 } := by
  cases h with
  | silent => exact absurd hcommitted (by simp)
  | refused => exact absurd hcommitted (by simp)
  | sent head capacity => exact .sent head capacity
  | begun head capacity taken flight hitems =>
    exact .begun head capacity taken _ (by rw [hitems, List.append_assoc])
  | completed head capacity taken hclosed => exact absurd hclosed Bool.false_ne_true
  | failed head capacity taken cause rest hitems =>
    exact .failed head capacity taken cause _ (by rw [hitems, List.append_assoc]; rfl)
  | leftWaiting sink hgone => exact absurd hreceived (by simp [hgone])
  | leftReading => exact absurd hreceived (by simp)

/-- The writer performs an operation for a receiver that is there. -/
theorem step (h : Carries items false l) (hreceived : l.sink.channel.received = true) (op : Op) :
    Carries (items ++ (op.piece? l.sink.committed).toList.map .chunk) false
      { l with sink := (l.sink.step op).2 } := by
  rw [Streaming.sink_step]
  cases hpiece : op.piece? l.sink.committed with
  | none =>
    have hprepared := h.prepare op
    rw [← List.append_nil items] at hprepared
    exact hprepared
  | some bytes =>
    have hthere : (l.sink.prepare op).channel.received = true := by
      rw [(Streaming.channel_prepare l.sink op).1, hreceived]
    exact (h.prepare op).send (Streaming.committed_prepare_of_piece hpiece) hthere (.chunk bytes)

/-- What has arrived begins with the head, and goes on with what was sent first. -/
theorem arrived (h : Carries items closed l) :
    l.arrivals = [] ∨ l.arrivals = [.refused] ∨
    ∃ (taken : List Bytes) (ending : List Arrival),
      l.arrivals = .head l.sink.head :: taken.map .chunk ++ ending ∧
      taken.map .chunk <+: items ∧
      (ending = [] ∨ ending = [.complete] ∨ ∃ cause, ending = [.failure cause]) := by
  cases h with
  | silent | sent | leftWaiting => exact .inl rfl
  | refused => exact .inr (.inl rfl)
  | begun head capacity taken flight hitems =>
    exact .inr (.inr ⟨taken, [], (List.append_nil _).symm, ⟨_, hitems.symm⟩, .inl rfl⟩)
  | completed head capacity taken hclosed hitems =>
    exact .inr (.inr ⟨taken, _, rfl, ⟨[], (List.append_nil _).trans hitems.symm⟩, .inr (.inl rfl)⟩)
  | failed head capacity taken cause rest hitems =>
    exact .inr (.inr ⟨taken, _, rfl, ⟨_, hitems.symm⟩, .inr (.inr ⟨cause, rfl⟩)⟩)
  | leftReading head capacity taken rest hitems =>
    exact .inr (.inr ⟨taken, [], (List.append_nil _).symm, ⟨_, hitems.symm⟩, .inl rfl⟩)

/-! ### The end of the response -/

/-- What a receiver has that is done. -/
theorem finished (h : Carries items closed l) (hfinished : l.receiver = .finished) :
    (l.arrivals = [.refused] ∧ l.sink.committed = false ∧ closed = true ∧ items = []) ∨
    (∃ taken : List Bytes, l.arrivals =
        .head l.sink.head :: taken.map .chunk ++ [.complete] ∧
      l.sink.committed = true ∧ closed = true ∧ items = taken.map .chunk) ∨
    ∃ (taken : List Bytes) (cause : IoError) (rest : List Item), l.arrivals =
        .head l.sink.head :: taken.map .chunk ++ [.failure cause] ∧
      l.sink.committed = true ∧ items = taken.map .chunk ++ .failure cause :: rest := by
  cases h with
  | refused head capacity hclosed hitems => exact .inl ⟨rfl, rfl, hclosed, hitems⟩
  | completed head capacity taken hclosed hitems =>
    exact .inr (.inl ⟨taken, rfl, rfl, hclosed, hitems⟩)
  | failed head capacity taken cause rest hitems =>
    exact .inr (.inr ⟨taken, cause, rest, rfl, rfl, hitems⟩)
  | silent | sent | begun | leftWaiting | leftReading => exact absurd hfinished (by simp)

/-- A receiver waits for nothing that is under way, and for nothing at all once the response is
closed. -/
theorem idle (h : Carries items closed l) (ht : l.take? closed = none)
    (hwait : closed = true ∨ l.sink.channel.items ≠ []) :
    l.receiver = .finished ∨ l.receiver = .gone := by
  cases h with
  | silent head capacity hitems =>
    rcases hwait with rfl | hitems
    · exact absurd ht (by simp [Link.take?, Receiver.take])
    · exact absurd rfl hitems
  | sent head capacity => exact absurd ht (by simp [Link.take?, Receiver.take])
  | begun head capacity taken flight hitems =>
    cases flight with
    | nil =>
      rcases hwait with rfl | hflight
      · exact absurd ht (by simp [Link.take?, Receiver.take])
      · exact absurd rfl hflight
    | cons item flight =>
      cases item <;> exact absurd ht (by simp [Link.take?, Receiver.take])
  | refused | completed | failed => exact .inl rfl
  | leftWaiting | leftReading => exact .inr rfl

end Carries

/-! ### Taking to the end -/

/-- How often the receiver can still take what comes next, if nothing more is sent. -/
def weight (l : Link) : Nat :=
  l.sink.channel.items.length +
    match l.receiver with
    | .waiting => 2
    | .reading => 1
    | .finished => 0
    | .gone => 0

/-- Taking brings the receiver forward and moves nothing but the channel. -/
theorem take?_eq_some {l t : Link} {closed : Bool} (h : l.take? closed = some t) :
    t.weight < l.weight ∧ t.receiver ≠ .gone ∧ l.receiver ≠ .gone ∧ t.sink.head = l.sink.head ∧
      t.sink.committed = l.sink.committed ∧
      t.sink.channel.received = l.sink.channel.received ∧
      t.sink.channel.capacity = l.sink.channel.capacity := by
  rw [take?, Option.map_eq_some_iff] at h
  obtain ⟨⟨arrival, receiver, channel⟩, htake, rfl⟩ := h
  unfold Receiver.take at htake
  unfold weight
  -- the head and the end of the body bring the receiver to its next state, a chunk shortens the
  -- flight
  cases hreceiver : l.receiver with
  | waiting =>
    rw [hreceiver] at htake
    dsimp only at htake
    split at htake
    · cases htake
      exact ⟨Nat.lt_succ_self _, nofun, nofun, rfl, rfl, rfl, rfl⟩
    · split at htake
      · cases htake
        exact ⟨Nat.lt_succ_of_lt (Nat.lt_succ_self _), nofun, nofun, rfl, rfl, rfl, rfl⟩
      · cases htake
  | reading =>
    rw [hreceiver] at htake
    dsimp only at htake
    split at htake
    · next hitems =>
      cases htake
      rw [hitems]
      exact ⟨Nat.lt_succ_self _, nofun, nofun, rfl, rfl, rfl, rfl⟩
    · next hitems =>
      cases htake
      rw [hitems]
      exact ⟨Nat.lt_succ_of_lt (Nat.lt_succ_self _), nofun, nofun, rfl, rfl, rfl, rfl⟩
    · split at htake
      · cases htake
        exact ⟨Nat.lt_succ_self _, nofun, nofun, rfl, rfl, rfl, rfl⟩
      · cases htake
  | finished =>
    rw [hreceiver] at htake
    cases htake
  | gone =>
    rw [hreceiver] at htake
    cases htake

/-- A receiver that waits or is done takes nothing. -/
theorem drain_of_take?_eq_none {l : Link} (h : l.take? true = none) (n : Nat) :
    l.drain n = l := by
  induction n with
  | zero => rfl
  | succ n ih => rw [Link.drain, Link.take, h, Option.getD_none, ih]

/-- A receiver that stays until the response is closed, and takes long enough, is done. -/
theorem Carries.drain {items : List Item} {l : Link} (h : Carries items true l)
    (hthere : l.receiver ≠ .gone) {n : Nat} (hn : l.weight ≤ n) :
    Carries items true (l.drain n) ∧ (l.drain n).receiver = .finished ∧
      (l.drain n).sink.head = l.sink.head ∧ (l.drain n).sink.committed = l.sink.committed := by
  -- induction on how often the receiver takes, which is often enough for what is in flight
  induction n generalizing l with
  | zero =>
    have hfinished : l.receiver = .finished := by
      unfold weight at hn
      cases hreceiver : l.receiver with
      | finished => rfl
      | gone => exact absurd hreceiver hthere
      | waiting => rw [hreceiver] at hn; dsimp only at hn; omega
      | reading => rw [hreceiver] at hn; dsimp only at hn; omega
    exact ⟨h, hfinished, rfl, rfl⟩
  | succ n ih =>
    rw [Link.drain, Link.take]
    cases ht : l.take? true with
    | none =>
      have hfinished := (h.idle ht (.inl rfl)).resolve_right hthere
      change Carries items true (l.drain n) ∧ (l.drain n).receiver = .finished ∧
        (l.drain n).sink.head = l.sink.head ∧ (l.drain n).sink.committed = l.sink.committed
      rw [drain_of_take?_eq_none ht]
      exact ⟨h, hfinished, rfl, rfl⟩
    | some t =>
      obtain ⟨hless, hstay, -, hhead, hcommitted, -⟩ := take?_eq_some ht
      obtain ⟨hcarries, hfinished, hh, hc⟩ := ih (h.take ht) hstay (by omega)
      exact ⟨hcarries, hfinished, hh.trans hhead, hc.trans hcommitted⟩

end Link

end WebMount.Response
