import WebMount.Form.Convert
import WebMount.Proofs.Text.Blank

/-!
# Elements are read back

What a single value is written as is read as that value again, for every kind but the floating-point
numbers (`Kind.rereads_of_parse?`). What it is written as has no blank ends and holds no separator
of arrays that the input was free of.
-/

namespace WebMount

namespace Number

/-- Integers are written with digits and a minus sign. -/
theorem mem_renderInt {c : Char} {n : Int} (h : c ∈ renderInt n) : c = '-' ∨ c.isDigit = true := by
  have hdigit : c ∈ renderNat n.natAbs → c.isDigit = true := fun hc =>
    Nat.isDigit_of_mem_toDigits (by decide) (by decide) hc
  rw [renderInt] at h
  split at h
  · exact (List.mem_cons.mp h).imp_right hdigit
  · exact .inr (hdigit h)

theorem renderInt_ne_nil (n : Int) : renderInt n ≠ [] := by
  obtain ⟨c, s, hdigits, -⟩ := renderNat_eq_cons n.natAbs
  rw [renderInt, hdigits]
  split <;> exact List.cons_ne_nil _ _

end Number

namespace Form

open WebMount.Number WebMount.Text

/-- A number of a kind is read back. -/
theorem IntKind.parse?_renderInt {kind : IntKind} {input : List Char} {n : Int}
    (h : kind.parse? input = some n) : kind.parse? (renderInt n) = some n := by
  rw [IntKind.parse?, Option.filter_eq_some_iff] at h
  obtain ⟨-, hrange⟩ := h
  rw [IntKind.parse?, Option.filter_eq_some_iff]
  refine ⟨?_, hrange⟩
  split
  · exact parseInt?_renderInt n
  · next hunsigned =>
    -- a kind without negatives writes no sign
    have hnonneg : 0 ≤ n := by
      have hbounds := (of_decide_eq_true hrange).1
      cases kind with
      | int32 => exact absurd rfl hunsigned
      | int64 => exact absurd rfl hunsigned
      | uint32 => exact hbounds
      | uint64 => exact hbounds
    rw [renderInt, if_neg (Int.not_lt.mpr hnonneg), parsePositive?_renderNat, Option.map_some,
      Option.some.injEq]
    exact Int.natAbs_of_nonneg hnonneg

/-- A single value that was read from an input is read back from what it is written as. -/
structure Kind.Rereads (kind : Kind) (input : List Char) (v : Value) : Prop where
  scalar : ∀ elements, v ≠ .array elements
  parses : kind.parse? v.renderChars = some v
  trimmed : Trimmed v.renderChars
  nonempty : input ≠ [] → v.renderChars ≠ []
  plain : ∀ c ∈ separators, c ∉ input → c ∉ v.renderChars

/-- **Elements are read back.** -/
theorem Kind.rereads_of_parse? {kind : Kind} {input : List Char} {v : Value}
    (hkind : ∀ width, kind ≠ .float width) (hinput : Trimmed input)
    (h : kind.parse? input = some v) : kind.Rereads input v := by
  cases kind with
  | text =>
    obtain rfl := Option.some.inj h
    have hrender : (Value.text (String.ofList input)).renderChars = input := by
      rw [Value.renderChars, String.toList_ofList]
    refine ⟨fun _ => nofun, ?_, ?_, ?_, ?_⟩ <;> rw [hrender]
    · exact h
    · exact hinput
    · exact id
    · exact fun _ _ => id
  | bool =>
    obtain ⟨b, -, rfl⟩ := Option.map_eq_some_iff.mp h
    have hread : ∀ b : Bool, parseBool? (Value.bool b).renderChars = some b := by decide
    have hletters : ∀ c ∈ (Value.bool b).renderChars, isBlank c = false ∧ c ∉ separators := by
      have hall : ∀ b : Bool, ((Value.bool b).renderChars.all fun c =>
          !isBlank c && !separators.contains c) = true := by decide
      intro c hc
      simpa using List.all_eq_true.mp (hall b) c hc
    have hnonempty : ∀ b : Bool, (Value.bool b).renderChars ≠ [] := by decide
    refine ⟨fun _ => nofun, ?_, ?_, fun _ => hnonempty b, ?_⟩
    · rw [parse?, hread]
      rfl
    · exact trimmed_of_forall fun c hc => (hletters c hc).1
    · exact fun c hsep _ hc => (hletters c hc).2 hsep
  | char =>
    obtain ⟨c, rfl⟩ : ∃ c, input = [c] := by
      cases input with
      | nil => exact absurd h (by simp [parse?])
      | cons c s =>
        cases s with
        | nil => exact ⟨c, rfl⟩
        | cons d s => exact absurd h (by simp [parse?])
    obtain rfl := Option.some.inj h
    exact ⟨fun _ => nofun, rfl, hinput, id, fun _ _ => id⟩
  | int kind =>
    obtain ⟨n, hn, rfl⟩ := Option.map_eq_some_iff.mp h
    have hread : (Kind.int kind).parse? (renderInt n) = some (.int kind n) := by
      rw [parse?, IntKind.parse?_renderInt hn]
      rfl
    refine ⟨fun _ => nofun, hread, trimmed_of_forall fun c hc => ?_,
      fun _ => renderInt_ne_nil n, fun c hsep _ hc => ?_⟩
    · rcases mem_renderInt hc with rfl | hdigit
      · decide
      · exact isBlank_of_isDigit hdigit
    · have hall : (separators.all fun sep => sep != '-' && !sep.isDigit) = true := by decide
      have hsign : c ≠ '-' ∧ c.isDigit = false := by
        simpa using List.all_eq_true.mp hall c hsep
      obtain ⟨hminus, hnodigit⟩ := hsign
      rcases mem_renderInt hc with rfl | hdigit
      · exact hminus rfl
      · exact absurd (hdigit.symm.trans hnodigit) (by decide)
  | float width => exact absurd rfl (hkind width)

end Form

end WebMount
