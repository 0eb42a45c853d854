import WebMount.Proofs.Form.Scalar
import WebMount.Proofs.Text.Slice

/-!
# Values are read back

A value that was converted from an input is written with separators that are guessed from the first
elements of its arrays, and read with those that its type calls for. Written with the right
separators it is always read back (`faithful_of_convertIn`). The guess is right in up to two
dimensions (`renderIn_of_dims`), and in three unless the first element is an array without
elements, which does not show how deep it is. So a converted value is read back from what it is
written as exactly if it has no such element in front (`convert_render_iff`).
-/

namespace WebMount.Form

open WebMount.Text

/-! ### Collected results -/

theorem collect_eq_ok_iff {results : List (Except ConversionError Value)} {values : List Value} :
    collect results = .ok values ↔ results = values.map .ok := by
  induction results generalizing values with
  | nil => cases values <;> simp [collect]
  | cons result results ih =>
    cases result with
    | error e => cases values <;> simp [collect]
    | ok value =>
      rw [collect]
      cases hrest : collect results with
      | error e =>
        have hne : ∀ values : List Value, results ≠ values.map .ok := fun values heq =>
          absurd (hrest.symm.trans (ih.mpr heq)) (by simp)
        cases values with
        | nil => simp
        | cons v values => simp [hne values]
      | ok rest =>
        have hresults := ih.mp hrest
        cases values with
        | nil => simp
        | cons v values => simp [hresults, List.map_inj_right]

/-! ### Separators -/

/-- The separators of arrays are different from each other. -/
theorem separator_ne {i j : Nat} (hij : i < j) (hj : j < maxDimensions) :
    separator j ≠ separator i := by
  have hall : ∀ j < maxDimensions, ∀ i < j, separator j ≠ separator i := by decide
  exact hall j hj i hij

theorem separator_mem (i : Nat) : separator i ∈ separators := by
  have hall : ∀ i < maxDimensions, separators.getD i '|' ∈ separators := by decide
  exact hall _ (Nat.lt_of_le_of_lt (Nat.min_le_right i _) (by decide))

theorem isBlank_separator (i : Nat) : isBlank (separator i) = false := by
  have hall : (separators.all fun c => !isBlank c) = true := by decide
  simpa using List.all_eq_true.mp hall _ (separator_mem i)

/-! ### Dimensions of a value -/

namespace Value

/-- The value is a single one inside the given number of array dimensions. -/
def HasDims : Nat → Value → Prop
  | 0, v => ∀ elements, v ≠ .array elements
  | inner + 1, v => ∃ elements, v = .array elements ∧ ∀ e ∈ elements, e.HasDims inner

/-- The value as it could be typed into a field whose type has the given number of dimensions. -/
def renderIn : Nat → Value → List Char
  | 0, v => v.renderChars
  | inner + 1, .array elements => [separator inner].intercalate (elements.map (renderIn inner))
  | _ + 1, v => v.renderChars

theorem renderAll_eq_map (values : List Value) : renderAll values = values.map renderChars := by
  induction values with
  | nil => rfl
  | cons v values ih => rw [renderAll, ih, List.map_cons]

/-- The depth along the first elements is right in up to one dimension. -/
theorem depth_of_hasDims {v : Value} {d : Nat} (h : v.HasDims d) (hd : d ≤ 1) : v.depth = d := by
  have hscalar : ∀ {v : Value}, v.HasDims 0 → v.depth = 0 := by
    intro v hv
    cases v with
    | array elements => exact absurd rfl (hv elements)
    | _ => rfl
  match d, hd with
  | 0, _ => exact hscalar h
  | 1, _ =>
    obtain ⟨elements, rfl, helements⟩ := h
    cases elements with
    | nil => rfl
    | cons e elements => rw [depth, hscalar (helements e List.mem_cons_self)]

/-- Of an array with elements the depth is right in two dimensions as well. -/
theorem depth_of_hasDims_two {v : Value} (h : v.HasDims 2) (hne : v ≠ .array []) : v.depth = 2 := by
  obtain ⟨elements, rfl, helements⟩ := h
  cases elements with
  | nil => exact absurd rfl hne
  | cons e elements =>
    rw [depth, depth_of_hasDims (helements e List.mem_cons_self) (Nat.le_refl 1)]

/-- **An array is written with the right separator** if its elements are, and if the depth of the
first one is the one of its dimensions. -/
theorem renderIn_array {inner : Nat} {elements : List Value}
    (helements : ∀ e ∈ elements, e.renderIn inner = e.renderChars)
    (hfirst : ∀ e ∈ elements.head?, e.depth = inner) :
    (array elements).renderIn (inner + 1) = (array elements).renderChars := by
  rw [renderIn, renderChars, renderAll_eq_map, List.map_congr_left helements]
  cases elements with
  | nil => rfl
  | cons e elements => rw [depth, hfirst e rfl, Nat.add_sub_cancel_left]

/-- In up to two dimensions every value is written with the right separators. -/
theorem renderIn_of_dims {v : Value} {d : Nat} (h : v.HasDims d) (hd : d ≤ 2) :
    v.renderIn d = v.renderChars := by
  induction d generalizing v with
  | zero => rfl
  | succ inner ih =>
    obtain ⟨elements, rfl, helements⟩ := h
    refine renderIn_array (fun e he => ih (helements e he) (Nat.le_of_succ_le hd)) fun e he => ?_
    exact depth_of_hasDims (helements e (List.mem_of_head? he)) (Nat.le_of_succ_le_succ hd)

/-- In three dimensions a value is written with the right separators unless its first element has
no elements. -/
theorem renderIn_three {v : Value} (h : v.HasDims 3)
    (hfirst : ∀ rest, v ≠ array (array [] :: rest)) : v.renderIn 3 = v.renderChars := by
  obtain ⟨elements, rfl, helements⟩ := h
  refine renderIn_array (fun e he => renderIn_of_dims (helements e he) (Nat.le_refl 2)) ?_
  cases elements with
  | nil => exact fun e he => nomatch he
  | cons first rest =>
    rintro e ⟨⟩
    refine depth_of_hasDims_two (helements _ List.mem_cons_self) ?_
    rintro rfl
    exact hfirst rest rfl

end Value

/-! ### Reading back -/

/-- A value that was converted from an input in a number of dimensions, and what it is written as
with the separators of these dimensions. -/
structure Faithful (kind : Kind) (d : Nat) (input : List Char) (v : Value) : Prop where
  dims : v.HasDims d
  /-- The value is read back. -/
  converts : convertIn kind d (v.renderIn d) = .ok v
  trimmed : Trimmed (v.renderIn d)
  nonempty : trim input ≠ [] → v.renderIn d ≠ []
  /-- A separator of dimensions further out is not brought in. -/
  plain : ∀ j, d ≤ j → j < maxDimensions → separator j ∉ input → separator j ∉ v.renderIn d

/-- A single value is converted to the value of its trimmed text. -/
theorem Kind.convert_eq_ok_iff {kind : Kind} {input : List Char} {v : Value} :
    kind.convert input = .ok v ↔ kind.parse? (trim input) = some v := by
  rw [Kind.convert]
  cases hparse : kind.parse? (trim input) <;> simp

theorem faithful_of_convert {kind : Kind} {input : List Char} {v : Value}
    (hkind : ∀ width, kind ≠ .float width) (h : kind.convert input = .ok v) :
    Faithful kind 0 input v := by
  have hrereads :=
    Kind.rereads_of_parse? hkind (trimmed_trim input) (Kind.convert_eq_ok_iff.mp h)
  refine ⟨hrereads.scalar, ?_, hrereads.trimmed, hrereads.nonempty, ?_⟩
  · refine Kind.convert_eq_ok_iff.mpr ?_
    rw [Value.renderIn, trim_eq_self hrereads.trimmed]
    exact hrereads.parses
  · intro j _ _ hinput
    exact hrereads.plain _ (separator_mem j) fun hmem => hinput (mem_of_mem_trim hmem)

/-- An input to an array is converted piece by piece, unless it is blank. -/
theorem convertIn_succ_eq_ok_iff {kind : Kind} {inner : Nat} {input : List Char} {v : Value} :
    convertIn kind (inner + 1) input = .ok v ↔
      (trim input = [] ∧ v = .array []) ∨
      (trim input ≠ [] ∧ ∃ values, v = .array values ∧
        (splitAll (separator inner) (trim input)).map (convertIn kind inner) =
          values.map .ok) := by
  rw [convertIn]
  by_cases hblank : trim input = []
  · simp [hblank, eq_comm]
  · simp only [hblank, if_false, ne_eq, not_false_eq_true, true_and, false_and, false_or]
    cases hcollect : collect ((splitAll (separator inner) (trim input)).map
        (convertIn kind inner)) with
    | error e =>
      constructor
      · exact fun h => nomatch h
      · rintro ⟨values, -, hvalues⟩
        exact absurd (hcollect.symm.trans (collect_eq_ok_iff.mpr hvalues)) (by simp)
    | ok values =>
      have hvalues := collect_eq_ok_iff.mp hcollect
      constructor
      · rintro ⟨⟩
        exact ⟨values, rfl, hvalues⟩
      · rintro ⟨others, rfl, hothers⟩
        have heq : collect _ = .ok others := collect_eq_ok_iff.mpr hothers
        rw [Except.ok.inj (hcollect.symm.trans heq)]

/-- Every value comes from a piece of the input. -/
theorem exists_piece {kind : Kind} {inner : Nat} {pieces : List (List Char)} {values : List Value}
    (h : pieces.map (convertIn kind inner) = values.map .ok) {v : Value} (hv : v ∈ values) :
    ∃ piece ∈ pieces, convertIn kind inner piece = .ok v := by
  have hmem : Except.ok v ∈ pieces.map (convertIn kind inner) := h ▸ List.mem_map_of_mem hv
  exact List.mem_map.mp hmem

/-- **One more dimension.** If the pieces of an input are written faithfully, so is the array of
their values. -/
theorem faithful_array {kind : Kind} {inner : Nat} {input : List Char} {values : List Value}
    (hinner : inner < maxDimensions) (hinput : trim input ≠ [])
    (hpieces : (splitAll (separator inner) (trim input)).map (convertIn kind inner) =
      values.map .ok)
    (h : ∀ v ∈ values, ∃ piece ∈ splitAll (separator inner) (trim input),
      Faithful kind inner piece v) :
    Faithful kind (inner + 1) input (.array values) := by
  have htexts : ∀ text ∈ values.map (Value.renderIn inner), ∃ v ∈ values,
      ∃ piece ∈ splitAll (separator inner) (trim input),
        Faithful kind inner piece v ∧ v.renderIn inner = text := by
    intro text htext
    obtain ⟨v, hv, rfl⟩ := List.mem_map.mp htext
    obtain ⟨piece, hpiece, hfaithful⟩ := h v hv
    exact ⟨v, hv, piece, hpiece, hfaithful, rfl⟩
  have hvalues : values ≠ [] := by
    rintro rfl
    rw [List.map_nil, List.map_eq_nil_iff] at hpieces
    exact splitAll_ne_nil _ _ hpieces
  -- no piece holds the separator, so what is written between the separators does not either
  have hplain : ∀ text ∈ values.map (Value.renderIn inner), separator inner ∉ text := by
    intro text htext
    obtain ⟨v, -, piece, hpiece, hfaithful, rfl⟩ := htexts text htext
    exact hfaithful.plain inner (Nat.le_refl inner) hinner (not_mem_of_mem_splitAll hpiece)
  have htrimmed : Trimmed ((Value.array values).renderIn (inner + 1)) := by
    refine trimmed_intercalate (isBlank_separator inner) fun text htext => ?_
    obtain ⟨v, -, piece, -, hfaithful, rfl⟩ := htexts text htext
    exact hfaithful.trimmed
  have hnonempty : (Value.array values).renderIn (inner + 1) ≠ [] := by
    match values, hvalues with
    | [v], _ =>
      -- the only piece is the whole input, which is not blank
      obtain ⟨piece, hpiece, hfaithful⟩ := h v List.mem_cons_self
      have hsingle : (splitAll (separator inner) (trim input)).length = 1 := by
        simpa using congrArg List.length hpieces
      obtain ⟨whole, hwhole⟩ := List.length_eq_one_iff.mp hsingle
      have hjoined := intercalate_splitAll (separator inner) (trim input)
      rw [hwhole, List.intercalate_singleton] at hjoined
      rw [hwhole, List.mem_singleton] at hpiece
      rw [Value.renderIn, List.map_singleton, List.intercalate_singleton]
      refine hfaithful.nonempty ?_
      rwa [hpiece, hjoined, trim_eq_self (trimmed_trim input)]
    | v :: w :: values, _ =>
      rw [Value.renderIn, List.map_cons, List.map_cons, List.intercalate_cons_cons]
      simp
  refine ⟨⟨values, rfl, fun v hv => ?_⟩, ?_, htrimmed, fun _ => hnonempty, ?_⟩
  · obtain ⟨piece, -, hfaithful⟩ := h v hv
    exact hfaithful.dims
  · have hcut : splitAll (separator inner) ((Value.array values).renderIn (inner + 1)) =
        values.map (Value.renderIn inner) :=
      splitAll_intercalate (by simpa using hvalues) hplain
    refine convertIn_succ_eq_ok_iff.mpr (.inr ?_)
    rw [trim_eq_self htrimmed]
    refine ⟨hnonempty, values, rfl, ?_⟩
    rw [hcut, List.map_map]
    refine List.map_congr_left fun v hv => ?_
    obtain ⟨piece, -, hfaithful⟩ := h v hv
    exact hfaithful.converts
  · intro j hj hmax hfree hmem
    rcases mem_intercalate hmem with heq | ⟨text, htext, hmem⟩
    · exact separator_ne hj hmax heq
    · obtain ⟨v, -, piece, hpiece, hfaithful, rfl⟩ := htexts text htext
      refine hfaithful.plain j (Nat.le_of_succ_le hj) hmax (fun hin => hfree ?_) hmem
      exact mem_of_mem_trim (mem_of_mem_splitAll hpiece hin)

/-- **With the right separators every value is read back.** -/
theorem faithful_of_convertIn {kind : Kind} {d : Nat} {input : List Char} {v : Value}
    (hkind : ∀ width, kind ≠ .float width) (hd : d ≤ maxDimensions)
    (h : convertIn kind d input = .ok v) : Faithful kind d input v := by
  induction d generalizing input v with
  | zero => exact faithful_of_convert hkind h
  | succ inner ih =>
    rcases convertIn_succ_eq_ok_iff.mp h with ⟨hblank, rfl⟩ | ⟨hinput, values, rfl, hpieces⟩
    · have hempty : (Value.array []).renderIn (inner + 1) = [] := rfl
      refine ⟨⟨[], rfl, fun _ he => absurd he List.not_mem_nil⟩, ?_, ?_, absurd hblank, ?_⟩
      · exact convertIn_succ_eq_ok_iff.mpr (.inl ⟨rfl, rfl⟩)
      · rw [hempty]
        exact trimmed_of_forall fun _ hc => absurd hc List.not_mem_nil
      · rw [hempty]
        exact fun _ _ _ _ => List.not_mem_nil
    · refine faithful_array hd hinput hpieces fun v hv => ?_
      obtain ⟨piece, hpiece, hconvert⟩ := exists_piece hpieces hv
      exact ⟨piece, hpiece, ih (Nat.le_of_succ_le hd) hconvert⟩

/-! ### Where the guess is wrong -/

/-- A text without a separator is converted to an array of at most one element. -/
theorem elements_of_convertIn {kind : Kind} {inner : Nat} {input : List Char}
    {elements : List Value} (hinput : separator inner ∉ input)
    (h : convertIn kind (inner + 1) input = .ok (.array elements)) : elements.length ≤ 1 := by
  rcases convertIn_succ_eq_ok_iff.mp h with ⟨-, heq⟩ | ⟨-, values, heq, hpieces⟩
  · obtain rfl := Value.array.inj heq
    exact Nat.zero_le 1
  · obtain rfl := Value.array.inj heq
    rw [splitAll_of_not_mem fun hmem => hinput (mem_of_mem_trim hmem)] at hpieces
    have hlength := congrArg List.length hpieces
    rw [List.length_map, List.length_map, List.length_singleton] at hlength
    exact Nat.le_of_eq hlength.symm

/-- An array of three dimensions that begins with an array without elements is written with the
separator of two dimensions, and is not read back. -/
theorem convertIn_ne_of_first_empty {kind : Kind} {input : List Char} {rest : List Value}
    (hkind : ∀ width, kind ≠ .float width)
    (h : convertIn kind 3 input = .ok (.array (.array [] :: rest))) :
    convertIn kind 3 (Value.array (.array [] :: rest)).renderChars ≠
      .ok (.array (.array [] :: rest)) := by
  intro hread
  rcases convertIn_succ_eq_ok_iff.mp h with ⟨-, heq⟩ | ⟨-, values, heq, hpieces⟩
  · exact absurd (Value.array.inj heq) (List.cons_ne_nil _ _)
  · obtain rfl := Value.array.inj heq
    have hrender : (Value.array (.array [] :: rest)).renderChars =
        [separator 1].intercalate ((Value.array [] :: rest).map Value.renderChars) := by
      rw [Value.renderChars, Value.renderAll_eq_map]
      rfl
    have hplain : separator 2 ∉ (Value.array (.array [] :: rest)).renderChars := by
      rw [hrender]
      intro hmem
      rcases mem_intercalate hmem with heq | ⟨text, htext, hmem⟩
      · exact separator_ne (by decide) (by decide) heq
      · obtain ⟨v, hv, rfl⟩ := List.mem_map.mp htext
        obtain ⟨piece, hpiece, hconvert⟩ := exists_piece hpieces hv
        have hfaithful := faithful_of_convertIn hkind (by decide) hconvert
        rw [← Value.renderIn_of_dims hfaithful.dims (Nat.le_refl 2)] at hmem
        exact hfaithful.plain 2 (Nat.le_refl 2) (by decide) (not_mem_of_mem_splitAll hpiece) hmem
    -- so there is nothing behind the first element, and then nothing is written at all
    have hlength := elements_of_convertIn hplain hread
    rw [List.length_cons, Nat.succ_le_succ_iff, Nat.le_zero, List.length_eq_zero_iff] at hlength
    subst hlength
    have hblank : (Value.array [.array []]).renderChars = [] := rfl
    rw [hblank] at hread
    exact absurd (Value.array.inj (Except.ok.inj hread)) (by simp)

/-- **When a converted value is read back.** A value of a type with up to three dimensions, other
than of floating-point numbers, is written as an input that converts to the same value, unless it
has three dimensions and its first element is an array without elements. Then what is written
stands for another value. -/
theorem convert_render_iff {t : FieldType} {input : String} {v : Value}
    (hdims : t.dimensions ≤ 3) (hkind : ∀ width, t.kind ≠ .float width)
    (h : t.convert input = .ok v) :
    t.convert v.render = .ok v ↔
      ¬(t.dimensions = 3 ∧ ∃ rest, v = .array (.array [] :: rest)) := by
  have hconvert : ∀ input : String, t.convert input =
      convertIn t.kind t.dimensions input.toList := by
    intro input
    have hnot : ¬maxDimensions < t.dimensions := Nat.not_lt.mpr hdims
    rw [FieldType.convert, if_neg hnot]
  rw [hconvert] at h ⊢
  rw [Value.render, String.toList_ofList]
  have hfaithful := faithful_of_convertIn hkind hdims h
  constructor
  · rintro hread ⟨hthree, rest, rfl⟩
    rw [hthree] at h hread
    exact convertIn_ne_of_first_empty hkind h hread
  · intro hfirst
    have hrender : v.renderIn t.dimensions = v.renderChars := by
      by_cases hthree : t.dimensions = 3
      · rw [hthree]
        refine Value.renderIn_three (hthree ▸ hfaithful.dims) fun rest heq => ?_
        exact hfirst ⟨hthree, rest, heq⟩
      · exact Value.renderIn_of_dims hfaithful.dims (by omega)
    rw [← hrender]
    exact hfaithful.converts

/-- Words between blanks are read back without the blanks. -/
theorem convert_render_iff_words :
    (FieldType.mk .text 2).convert " a, b;;c " =
      .ok (.array [.array [.text "a", .text "b"], .array [], .array [.text "c"]]) ∧
    (FieldType.mk .text 2).convert
        (Value.array [.array [.text "a", .text "b"], .array [], .array [.text "c"]]).render =
      .ok (.array [.array [.text "a", .text "b"], .array [], .array [.text "c"]]) := by
  have hread : (FieldType.mk .text 2).convert " a, b;;c " =
      .ok (.array [.array [.text "a", .text "b"], .array [], .array [.text "c"]]) := rfl
  exact ⟨hread, (convert_render_iff (by decide) (by simp) hread).mpr fun h =>
    absurd h.1 (by decide)⟩

/-- An array that begins with an empty part is written as `;1`, which is a single part. -/
theorem convert_render_drifts :
    let t : FieldType := ⟨.int .int64, 3⟩
    let v : Value := .array [.array [], .array [.array [.int .int64 1]]]
    t.convert "|1" = .ok v ∧ v.render = ";1" ∧
      t.convert ";1" = .ok (.array [.array [.array [], .array [.int .int64 1]]]) ∧
      t.convert v.render ≠ .ok v := by
  intro t v
  have hrender : v.render = ";1" := rfl
  have hother : t.convert ";1" = .ok (.array [.array [.array [], .array [.int .int64 1]]]) := rfl
  refine ⟨rfl, hrender, hother, fun hread => ?_⟩
  rw [hrender] at hread
  have hsame := Value.array.inj (Except.ok.inj (hother.symm.trans hread))
  exact absurd (congrArg List.length hsame) (by decide)

end WebMount.Form
