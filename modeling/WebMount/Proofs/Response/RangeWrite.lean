import WebMount.Proofs.Response.Transfer
import WebMount.Response.RangeWrite
import WebMount.Response.Recorder

/-!
# Parts of buffers are written exactly or not at all

Whether a part lies in its buffer is decided with sums that cannot wrap around, so both ways through
`writeRange` come to the same: a part that lies in its buffer is written, and nothing is done about
any other (`perform_eq`). A sink that never interrupts is asked once for a part with bytes and never
for one without (`writeAll_eq`), hence a request adds to what a watched sink has received the
bytes of the part or nothing (`received_perform`), and requests that follow each other add up
(`received_performAll`, `writes_performAll`).
-/

namespace WebMount.Response

namespace RangeWrite

variable {r : RangeWrite}

theorem length_slice (h : r.stop ≤ r.buffer.length) : r.slice.length = r.length.toNat := by
  rw [slice, List.length_take, List.length_drop]
  rw [stop] at h
  omega

theorem slice_eq_nil_iff (h : r.stop ≤ r.buffer.length) : r.slice = [] ↔ r.length = 0 := by
  rw [← List.length_eq_zero_iff, length_slice h, ← UInt64.toNat_inj]
  rfl

/-- The place behind a part of the buffer is a machine word. -/
theorem checkedAdd?_of_stop_le (h : r.stop ≤ r.buffer.length) :
    Number.checkedAdd? r.offset r.length = some (.ofNat r.stop) := by
  have hfits : r.stop < UInt64.size := Nat.lt_of_le_of_lt h r.fits
  rw [Number.checkedAdd?_eq_some_iff, UInt64.toNat_ofNat_of_lt' hfits, stop]

end RangeWrite

namespace Output

variable {σ : Type} [Sink σ]

/-! ### Which bytes are written -/

/-- A part of the buffer is cut out of it, and any other part is refused. -/
theorem writePart_eq (out : Output σ) (r : RangeWrite) :
    out.writePart r.buffer r.offset r.length =
      if r.stop ≤ r.buffer.length then out.writeAll r.slice else (.error r.outside, out) := by
  rw [writePart]
  split
  · next stop hstop =>
    rw [Option.filter_eq_some_iff, Number.checkedAdd?_eq_some_iff, decide_eq_true_eq] at hstop
    obtain ⟨hsum, hle⟩ := hstop
    rw [if_pos (by rwa [RangeWrite.stop, hsum]), ← hsum, RangeWrite.slice, List.drop_take,
      Nat.add_sub_cancel_left]
  · next hnone =>
    split
    · next hle =>
      rw [RangeWrite.checkedAdd?_of_stop_le hle, Option.filter_eq_none_iff] at hnone
      have hfits : r.stop < UInt64.size := Nat.lt_of_le_of_lt hle r.fits
      refine absurd ?_ (hnone _ rfl)
      rwa [decide_eq_true_eq, UInt64.toNat_ofNat_of_lt' hfits]
    · rfl

/-- **A whole buffer is written as any other part of it would be.** -/
theorem perform_eq_writePart (out : Output σ) (r : RangeWrite) :
    out.perform r = out.writePart r.buffer r.offset r.length := by
  rw [perform, writeRange]
  split
  · next hwhole =>
    obtain ⟨hoffset, hlength⟩ := hwhole
    have hstop : r.stop = r.buffer.length := by rw [RangeWrite.stop, hoffset, hlength]; simp
    have hslice : r.slice = r.buffer := by
      rw [RangeWrite.slice, hoffset, hlength]
      exact List.take_length
    rw [writePart_eq, if_pos (Nat.le_of_eq hstop), hslice]
  · rfl

theorem perform_eq (out : Output σ) (r : RangeWrite) :
    out.perform r =
      if r.stop ≤ r.buffer.length then out.writeAll r.slice else (.error r.outside, out) :=
  (perform_eq_writePart out r).trans (writePart_eq out r)

/-- Nothing becomes of a part that lies in its buffer and has no bytes. -/
theorem perform_of_length_eq_zero (out : Output σ) {r : RangeWrite}
    (hstop : r.stop ≤ r.buffer.length) (hlength : r.length = 0) :
    out.perform r = (.ok (), out) := by
  rw [perform_eq, if_pos hstop, (RangeWrite.slice_eq_nil_iff hstop).mpr hlength, writeAll_nil]

/-- Nothing becomes of a part that does not lie in its buffer. -/
theorem perform_of_lt_stop (out : Output σ) {r : RangeWrite} (hstop : r.buffer.length < r.stop) :
    out.perform r = (.error r.outside, out) := by
  rw [perform_eq, if_neg (Nat.not_le_of_lt hstop)]

/-- Every request has its result. -/
theorem length_performAll (out : Output σ) (rs : List RangeWrite) :
    (out.performAll rs).1.length = rs.length := by
  induction rs generalizing out with
  | nil => rfl
  | cons r rs ih => exact congrArg Nat.succ (ih _)

/-! ### What a watched sink has received -/

variable [Steady σ]

/-- What becomes of a part that lies in its buffer and has bytes. -/
theorem perform_of_stop_le (out : Output (Watched σ)) {r : RangeWrite}
    (hstop : r.stop ≤ r.buffer.length) (hlength : r.length ≠ 0) :
    ∃ answer sink, Sink.step out.sink.sink (.write r.slice) = (answer, sink) ∧
      out.perform r = (answer, ⟨⟨sink, out.sink.asked ++ [(.write r.slice, answer)]⟩,
        out.writes + answer.isOk.toNat⟩) := by
  have hslice : r.slice ≠ [] := mt (RangeWrite.slice_eq_nil_iff hstop).mp hlength
  refine ⟨_, _, rfl, ?_⟩
  rw [perform_eq, if_pos hstop, writeAll_eq out hslice]
  rfl

/-- **What a request can do**: be refused, have nothing to write, or ask the sink once. -/
theorem perform_cases (out : Output (Watched σ)) (r : RangeWrite) :
    (r.buffer.length < r.stop ∧ out.perform r = (.error r.outside, out)) ∨
    (r.stop ≤ r.buffer.length ∧ r.length = 0 ∧ out.perform r = (.ok (), out)) ∨
    (r.stop ≤ r.buffer.length ∧ r.length ≠ 0 ∧ ∃ answer sink,
      out.perform r = (answer, ⟨⟨sink, out.sink.asked ++ [(.write r.slice, answer)]⟩,
        out.writes + answer.isOk.toNat⟩)) := by
  rcases Nat.lt_or_ge r.buffer.length r.stop with hstop | hstop
  · exact .inl ⟨hstop, perform_of_lt_stop out hstop⟩
  · by_cases hlength : r.length = 0
    · exact .inr (.inl ⟨hstop, hlength, perform_of_length_eq_zero out hstop hlength⟩)
    · obtain ⟨answer, sink, -, hperform⟩ := perform_of_stop_le out hstop hlength
      exact .inr (.inr ⟨hstop, hlength, answer, sink, hperform⟩)

/-- **A watched sink receives the bytes of the part or nothing.** -/
theorem received_perform (out : Output (Watched σ)) (r : RangeWrite) :
    (out.perform r).2.sink.received = out.sink.received ++ r.sent (out.perform r).1 := by
  obtain ⟨-, hperform⟩ | ⟨hstop, hlength, hperform⟩ | ⟨-, -, answer, sink, hperform⟩ :=
    perform_cases out r <;> rw [hperform]
  · exact (List.append_nil _).symm
  · rw [RangeWrite.sent, (RangeWrite.slice_eq_nil_iff hstop).mpr hlength, List.append_nil]
  · dsimp only [Watched.received]
    rw [List.flatMap_append, List.flatMap_singleton]
    cases answer <;> rfl

/-- **The counter grows by the writes with bytes that the sink accepts.** -/
theorem writes_perform (out : Output (Watched σ)) (r : RangeWrite) :
    (out.perform r).2.writes = out.writes + (r.counted (out.perform r).1).toNat := by
  dsimp only [RangeWrite.counted]
  obtain ⟨-, hperform⟩ | ⟨-, hlength, hperform⟩ | ⟨-, hlength, answer, sink, hperform⟩ :=
    perform_cases out r <;> rw [hperform]
  · simp [Except.isOk, Except.toBool]
  · rw [hlength]
    rfl
  · rw [bne_iff_ne.mpr hlength, Bool.true_and]

/-! ### One request after the other -/

/-- **The bytes of the parts that are accepted reach the sink in order, and nothing else does.** -/
theorem received_performAll (out : Output (Watched σ)) (rs : List RangeWrite) :
    (out.performAll rs).2.sink.received = out.sink.received ++
      (rs.zip (out.performAll rs).1).flatMap fun (r, result) => r.sent result := by
  induction rs generalizing out with
  | nil => exact (List.append_nil _).symm
  | cons r rs ih =>
    calc (out.performAll (r :: rs)).2.sink.received
        = ((out.perform r).2.performAll rs).2.sink.received := rfl
      _ = (out.perform r).2.sink.received ++
            (rs.zip ((out.perform r).2.performAll rs).1).flatMap
              fun (r, result) => r.sent result := ih _
      _ = out.sink.received ++ (r.sent (out.perform r).1 ++
            (rs.zip ((out.perform r).2.performAll rs).1).flatMap
              fun (r, result) => r.sent result) := by
        rw [received_perform, List.append_assoc]

theorem writes_performAll (out : Output (Watched σ)) (rs : List RangeWrite) :
    (out.performAll rs).2.writes = out.writes +
      (rs.zip (out.performAll rs).1).countP fun (r, result) => r.counted result := by
  induction rs generalizing out with
  | nil => rfl
  | cons r rs ih =>
    have hcount : ∀ (p : RangeWrite × Except IoError Unit → Bool) a l,
        (a :: l).countP p = (p a).toNat + l.countP p := by
      intro p a l
      rw [List.countP_cons, Nat.add_comm]
      cases p a <;> rfl
    change ((out.perform r).2.performAll rs).2.writes = out.writes +
      ((r, (out.perform r).1) :: rs.zip ((out.perform r).2.performAll rs).1).countP _
    rw [ih, writes_perform, hcount, Nat.add_assoc]

/-- **Parts of buffers are written exactly, and sums do not wrap around.** A request fails with
invalid input before the sink is asked for anything exactly if the part reaches beyond the buffer,
with its place and its length added as numbers without bound. Any other request asks the sink for
one write of the bytes of the part if there are any, in the same way for a whole buffer, and its
result is the answer of the sink. So the sink receives the bytes of the part or nothing, and the
counter grows by one exactly if they are accepted and there are any. Over any requests, the sink
receives the parts that are accepted one after the other. -/
theorem perform_exact (out : Output (Watched σ)) :
    (∀ r : RangeWrite,
      ((∃ cause, (out.perform r).1 = .error cause ∧ cause.kind = .invalidInput ∧
          (out.perform r).2.sink.asked = out.sink.asked) ↔
        r.buffer.length < r.offset.toNat + r.length.toNat) ∧
      (r.buffer.length < r.offset.toNat + r.length.toNat →
        out.perform r =
          (.error (.rangeOutside r.offset.toNat r.length.toNat r.buffer.length), out)) ∧
      (r.offset.toNat + r.length.toNat ≤ r.buffer.length →
        r.slice.length = r.length.toNat ∧
        (r.length = 0 → out.perform r = (.ok (), out)) ∧
        (r.length ≠ 0 → ∃ answer sink,
          Sink.step out.sink.sink (.write r.slice) = (answer, sink) ∧
          out.perform r = (answer, ⟨⟨sink, out.sink.asked ++ [(.write r.slice, answer)]⟩,
            out.writes + answer.isOk.toNat⟩))) ∧
      out.perform r = out.writePart r.buffer r.offset r.length ∧
      (out.perform r).2.sink.received = out.sink.received ++ r.sent (out.perform r).1 ∧
      (out.perform r).2.writes = out.writes + (r.counted (out.perform r).1).toNat) ∧
    ∀ rs : List RangeWrite,
      (out.performAll rs).1.length = rs.length ∧
      (out.performAll rs).2.sink.received = out.sink.received ++
        (rs.zip (out.performAll rs).1).flatMap (fun (r, result) => r.sent result) ∧
      (out.performAll rs).2.writes = out.writes +
        (rs.zip (out.performAll rs).1).countP fun (r, result) => r.counted result := by
  refine ⟨fun r => ⟨⟨?_, ?_⟩, perform_of_lt_stop out, fun hstop => ?_, perform_eq_writePart out r,
    received_perform out r, writes_perform out r⟩,
    fun rs => ⟨length_performAll out rs, received_performAll out rs,
      writes_performAll out rs⟩⟩
  · rintro ⟨cause, hresult, -, hasked⟩
    -- a request that is not refused either succeeds or has asked the sink
    obtain ⟨hstop, -⟩ | ⟨-, -, hperform⟩ | ⟨-, -, answer, sink, hperform⟩ := perform_cases out r
    · exact hstop
    · rw [hperform] at hresult
      exact absurd hresult (by simp)
    · rw [hperform] at hasked
      exact absurd hasked (by simp)
  · intro hstop
    exact ⟨r.outside, congrArg Prod.fst (perform_of_lt_stop out hstop), rfl,
      congrArg (·.2.sink.asked) (perform_of_lt_stop out hstop)⟩
  · exact ⟨RangeWrite.length_slice hstop, perform_of_length_eq_zero out hstop,
      perform_of_stop_le out hstop⟩

/-- A recorder is sent three bytes out of the middle of a buffer in one write, and it is not asked
for a part whose end would wrap around to the beginning of the buffer. -/
theorem perform_exact_recorder :
    let out : Output (Watched Recorder) := { sink := { sink := {} } }
    let middle : RangeWrite := ⟨[48, 49, 50, 51, 52, 53], 2, 3, by decide⟩
    let wrapping : RangeWrite := ⟨[48, 49, 50, 51], 18446744073709551615, 2, by decide⟩
    out.perform middle = (.ok (),
        { sink := { sink := { accepted := [.write [50, 51, 52]], writes := 1 }
                    asked := [(.write [50, 51, 52], .ok ())] }
          writes := 1 }) ∧
      out.perform wrapping = (.error (.rangeOutside 18446744073709551615 2 4), out) := by
  intro out middle wrapping
  obtain ⟨hrange, -⟩ := perform_exact out
  constructor
  · obtain ⟨-, -, hinside, -⟩ := hrange middle
    obtain ⟨-, -, hwrite⟩ := hinside (by decide)
    obtain ⟨answer, sink, hstep, hperform⟩ := hwrite (by decide)
    obtain ⟨rfl, rfl⟩ := Prod.mk.inj hstep
    exact hperform
  · obtain ⟨-, hrefused, -⟩ := hrange wrapping
    exact hrefused (by decide)

end Output

end WebMount.Response
