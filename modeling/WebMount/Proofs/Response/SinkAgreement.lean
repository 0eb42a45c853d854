import WebMount.Proofs.Response.Command
import WebMount.Proofs.Response.Reception
import WebMount.Proofs.Response.Streaming

/-!
# Buffered and streamed responses agree

A streamed response whose receiver stays is a buffered response under way: it has the same head,
committed at the same time, and carries chunks that make up the same body (`Agrees`). Every
operation and every turn of the receiver keeps to this (`Agrees.step`, `Agrees.take`), so the
operations end alike on both.
-/

namespace WebMount.Response

/-- The link carries what is in the buffered response. -/
structure Agrees (b : Buffered) (l : Link) : Prop where
  head : l.sink.head = b.head
  committed : l.sink.committed = b.committed
  there : l.receiver ≠ .gone
  empty : b.committed = false → b.body = []
  carried : ∃ chunks : List Bytes, l.Carries (chunks.map .chunk) false ∧ chunks.flatten = b.body

namespace Agrees

variable {b : Buffered} {l : Link}

theorem create (capacity : Nat) : Agrees {} (Link.create capacity) :=
  ⟨rfl, rfl, by simp [Link.create], fun _ => rfl, [], .create capacity, rfl⟩

theorem received (h : Agrees b l) : l.sink.channel.received = true := by
  obtain ⟨chunks, hcarries, -⟩ := h.carried
  exact hcarries.received_iff.mpr h.there

/-- **An operation ends alike on both responses and keeps them in agreement.** -/
theorem step (h : Agrees b l) (op : Op) :
    ∃ sink, l.sink.step op = (.ok (), sink) ∧ Agrees (b.step op) { l with sink } := by
  obtain ⟨chunks, hcarries, hbody⟩ := h.carried
  -- both responses take the piece of an operation from the same account of it
  refine ⟨_, Streaming.step_of_received h.received op, ?_, ?_, h.there,
    Buffered.body_step_eq_nil h.empty op, chunks ++ (op.piece? l.sink.committed).toList, ?_, ?_⟩
  · rw [Streaming.head_step, Buffered.head_step, h.head, h.committed]
  · rw [Streaming.committed_step, Buffered.committed_step, h.committed]
  · rw [List.map_append]
    exact hcarries.step h.received op
  · rw [Buffered.body_step h.empty, ← h.committed, List.flatten_append, hbody]

/-- **The receiver may take what comes next at any time.** -/
theorem take (h : Agrees b l) : Agrees b (l.take false) := by
  obtain ⟨chunks, hcarries, hbody⟩ := h.carried
  rw [Link.take]
  cases ht : l.take? false with
  | none => exact h
  | some t =>
    obtain ⟨-, hthere, -, hhead, hcommitted, -⟩ := Link.take?_eq_some ht
    exact ⟨hhead.trans h.head, hcommitted.trans h.committed, hthere, h.empty, chunks,
      hcarries.take ht, hbody⟩

/-- Operations end alike on both responses. -/
theorem runOps (h : Agrees b l) (ops : List Op) :
    ∃ sink, Response.run l.sink ops = (.ok (), sink) ∧
      Agrees (ops.foldl Buffered.step b) { l with sink } := by
  induction ops generalizing b l with
  | nil => exact ⟨l.sink, rfl, h⟩
  | cons op ops ih =>
    obtain ⟨sink, hstep, hnext⟩ := h.step op
    obtain ⟨last, hrun, hlast⟩ := ih hnext
    refine ⟨last, ?_, hlast⟩
    have hsink : Sink.step l.sink op = (.ok (), sink) := hstep
    rw [Response.run, hsink]
    exact hrun

/-- A command ends alike on both responses. -/
theorem perform (h : Agrees b l) (c : Command) :
    ∃ result t sink, Response.perform b c = (result, t) ∧
      Response.perform l.sink c = (result, sink) ∧ Agrees t { l with sink } := by
  cases hops : c.ops with
  | error defect =>
    exact ⟨.error (.crash defect), b, l.sink, by rw [Response.perform, hops],
      by rw [Response.perform, hops], h⟩
  | ok ops =>
    obtain ⟨sink, hrun, hagree⟩ := h.runOps ops
    refine ⟨.ok (), _, sink, perform_buffered hops b, ?_, hagree⟩
    simp only [Response.perform, hops, hrun]

/-- **Turns keep both responses in agreement**, and each command ends alike on both. -/
theorem run (h : Agrees b l) (turns : List Link.Turn) :
    (l.run turns).1 = (b.performEach (turns.filterMap Link.Turn.command?)).1 ∧
      Agrees (b.performEach (turns.filterMap Link.Turn.command?)).2 (l.run turns).2 := by
  induction turns generalizing b l with
  | nil => exact ⟨rfl, h⟩
  | cons turn turns ih =>
    cases turn with
    | take => exact ih h.take
    | perform c =>
      obtain ⟨result, t, sink, hb, hl, hagree⟩ := h.perform c
      obtain ⟨hresults, hend⟩ := ih hagree
      have hcommitted : sink.committed = t.committed := hagree.committed
      have hcommands : (Link.Turn.perform c :: turns).filterMap Link.Turn.command? =
          c :: turns.filterMap Link.Turn.command? := rfl
      rw [hcommands, Link.run, Buffered.performEach, hb, hl]
      refine ⟨?_, hend⟩
      dsimp only
      rw [hresults, hcommitted]

/-! ### What was sent -/

/-- The head was sent if it is committed, and the body as far as it was written. -/
theorem sent (h : Agrees b l) :
    l.sentHead? = (if b.committed then some b.head else none) ∧ l.sentBody = b.body := by
  obtain ⟨hhead, hcommitted, hthere, hempty, chunks, hcarries, hbody⟩ := h
  generalize hitems : chunks.map Item.chunk = items at hcarries
  have hbytes : items.flatMap Item.bytes = b.body := by
    rw [← hitems, flatMap_bytes_items, hbody]
  cases hcarries with
  | silent head capacity hnone =>
    rw [← hcommitted, ← hbytes, hnone]
    exact ⟨rfl, rfl⟩
  | sent head capacity =>
    rw [← hcommitted, ← hbytes, ← hhead]
    exact ⟨rfl, rfl⟩
  | begun head capacity taken flight hsplit =>
    rw [← hcommitted, ← hbytes, ← hhead, hsplit, List.flatMap_append, flatMap_bytes_items,
      ← flatMap_bytes_arrivals]
    exact ⟨rfl, rfl⟩
  | failed head capacity taken cause rest hsplit =>
    exact absurd (hitems.trans hsplit) chunks_ne_failure
  | refused head capacity hclosed => exact absurd hclosed Bool.false_ne_true
  | completed head capacity taken hclosed => exact absurd hclosed Bool.false_ne_true
  | leftWaiting | leftReading => exact absurd rfl hthere

/-! ### The end of the response -/

/-- **A receiver that waits for all of a committed response gets the buffered one.** -/
theorem drain (h : Agrees b l) (hcommitted : b.committed = true) {n : Nat} (hn : l.weight ≤ n) :
    ∃ chunks : List Bytes, (l.drain n).arrivals =
        .head b.head :: chunks.map .chunk ++ [.complete] ∧ chunks.flatten = b.body := by
  obtain ⟨chunks, hcarries, hbody⟩ := h.carried
  -- the response is closed behind its last operation, and then nothing keeps the receiver waiting
  obtain ⟨hdrained, hfinished, hhead, hc⟩ := hcarries.close.drain h.there hn
  rw [h.committed, hcommitted] at hc
  rw [h.head] at hhead
  rcases hdrained.finished hfinished with ⟨-, hopen, -⟩ | ⟨taken, harrivals, -, -, hitems⟩ |
    ⟨taken, cause, rest, -, -, hitems⟩
  · exact absurd hopen (by simp [hc])
  · have hends : chunks.map Item.chunk ++ [] = taken.map .chunk ++ [] := by rw [hitems]
    obtain ⟨rfl, -⟩ := chunks_append_inj (by simp) (by simp) hends
    rw [hhead] at harrivals
    exact ⟨chunks, harrivals, hbody⟩
  · exact absurd hitems chunks_ne_failure

end Agrees

/-! ### Nothing changes behind the head -/

namespace Buffered

/-- **Commands behind the head leave it as it was sent**, and the body grows by the bytes that they
write. -/
theorem performEach_of_committed {b : Buffered} (h : b.committed = true) (cs : List Command) :
    (b.performEach cs).2.committed = true ∧ (b.performEach cs).2.head = b.head ∧
      (b.performEach cs).2.body = b.body ++ cs.flatMap Command.bytes := by
  induction cs generalizing b with
  | nil => exact ⟨h, rfl, (List.append_nil _).symm⟩
  | cons c cs ih =>
    have hstep : (perform b c).2.committed = true ∧ (perform b c).2.head = b.head ∧
        (perform b c).2.body = b.body ++ c.bytes := by
      cases hops : c.ops with
      | error defect =>
        have hcrash : perform b c = (.error (.crash defect), b) := by rw [perform, hops]
        rw [hcrash, Command.bytes_of_crash hops]
        exact ⟨h, rfl, (List.append_nil _).symm⟩
      | ok ops =>
        rw [perform_buffered hops, committed_foldl, head_foldl, body_foldl (by simp [h]), h,
          flatten_chunksAfter_true, Command.bytes_of_ops hops]
        exact ⟨Bool.true_or _, rfl, rfl⟩
    obtain ⟨hcommitted, hhead, hbody⟩ := hstep
    obtain ⟨hc, hh, hb⟩ := ih hcommitted
    rw [performEach]
    refine ⟨hc, hh.trans hhead, ?_⟩
    rw [hb, hbody, List.append_assoc, List.flatMap_cons]

end Buffered

/-- **Buffered and streamed responses agree.** Commands in any order, to a streamed response whose
receiver takes what comes at any times between them, end as they do on a buffered response, with
the head committed at the same times. Nothing is sent before the head is committed; afterwards
neither the head changes nor the body, which later commands extend by the bytes that they write. A
receiver that waits for the end of the response, once its head is committed, gets the buffered
one. -/
theorem buffered_streamed_agree (capacity : Nat) (turns : List Link.Turn) :
    let b := Buffered.performEach {} (turns.filterMap Link.Turn.command?)
    let l := (Link.create capacity).run turns
    l.1 = b.1 ∧
    (b.2.committed = false → b.2.body = [] ∧ l.2.sentHead? = none ∧ l.2.sentBody = []) ∧
    (b.2.committed = true → l.2.sentHead? = some b.2.head ∧ l.2.sentBody = b.2.body ∧
      ∀ later : List Link.Turn, let commands := later.filterMap Link.Turn.command?
        (b.2.performEach commands).2.head = b.2.head ∧
        (b.2.performEach commands).2.body = b.2.body ++ commands.flatMap Command.bytes ∧
        (l.2.run later).2.sentHead? = l.2.sentHead? ∧
        (l.2.run later).2.sentBody = l.2.sentBody ++ commands.flatMap Command.bytes) ∧
    ∀ n, l.2.commit.weight ≤ n → ∃ chunks : List Bytes,
      (l.2.commit.drain n).arrivals = .head b.2.head :: chunks.map .chunk ++ [.complete] ∧
        chunks.flatten = b.2.body := by
  intro b l
  obtain ⟨hresults, hagree⟩ := (Agrees.create capacity).run turns
  obtain ⟨hhead, hbody⟩ := hagree.sent
  refine ⟨hresults, ?_, ?_, ?_⟩
  · intro hopen
    rw [if_neg (Bool.eq_false_iff.mp hopen)] at hhead
    exact ⟨hagree.empty hopen, hhead, hbody.trans (hagree.empty hopen)⟩
  · intro hcommitted
    rw [if_pos hcommitted] at hhead
    refine ⟨hhead, hbody, fun later => ?_⟩
    obtain ⟨-, hlater⟩ := hagree.run later
    obtain ⟨hc, hh, hb⟩ :=
      Buffered.performEach_of_committed hcommitted (later.filterMap Link.Turn.command?)
    obtain ⟨hsent, hgrown⟩ := hlater.sent
    rw [if_pos hc] at hsent
    refine ⟨hh, hb, ?_, ?_⟩
    · rw [hsent, hh, hhead]
    · rw [hgrown, hb, hbody]
  · intro n hn
    -- sending the head is what a flush does, which leaves the head and the body as they are
    obtain ⟨sink, hflush, hflushed⟩ := hagree.step .flush
    have hsink : l.2.commit = { l.2 with sink } := by
      rw [Link.commit, show sink = l.2.sink.commit from (Prod.mk.inj hflush).2.symm]
    have hcommitted : (b.2.step .flush).committed = true := rfl
    rw [hsink] at hn ⊢
    exact hflushed.drain hcommitted hn

end WebMount.Response
