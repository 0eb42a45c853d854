import WebMount.Form.Leaves
import WebMount.Proofs.Form.RoundTrip

/-!
# Arrays are converted leaf by leaf

The conversion of an input to an array disregards the blanks around its parts, so it can be told
without any trimming (`convertIn_succ`). Then what becomes of an input is what becomes of the texts
of its single values, one after the other: the values in their order, or the refusal of the first
text that is refused (`leaves_convertIn`). A blank that is put at a margin of an input goes into
one part of it, at a margin of that part, and so is lost at the bottom (`convertIn_pad`).
-/

namespace WebMount.Form

open WebMount.Text

/-! ### Collected results -/

theorem collect_append (results more : List (Except ConversionError Value)) :
    collect (results ++ more) =
      (collect results).bind fun values => (collect more).map (values ++ ·) := by
  induction results with
  | nil => cases h : collect more <;> simp [collect, h, Except.bind, Except.map]
  | cons result results ih =>
    cases result with
    | error e => rfl
    | ok value =>
      rw [List.cons_append, collect, collect, ih]
      cases collect results with
      | error e => rfl
      | ok values => cases collect more <;> rfl

section Map

variable {β : Type} {f : β → Except ConversionError Value} {l : List β}

theorem exists_collect_eq_ok_iff :
    (∃ values, collect (l.map f) = .ok values) ↔ ∀ b ∈ l, ∃ v, f b = .ok v := by
  induction l with
  | nil => simp [collect]
  | cons b l ih =>
    rw [List.forall_mem_cons, ← ih, List.map_cons]
    cases f b with
    | error e => simp [collect]
    | ok v => cases h : collect (l.map f) <;> simp [collect, h]

/-- **The first refusal counts.** -/
theorem collect_eq_error_iff {e : ConversionError} :
    collect (l.map f) = .error e ↔ ∃ (before : List β) (b : β) (after : List β),
      l = before ++ b :: after ∧ (∀ earlier ∈ before, ∃ v, f earlier = .ok v) ∧
        f b = .error e := by
  constructor
  · intro h
    induction l with
    | nil => exact absurd h (by simp [collect])
    | cons b l ih =>
      rw [List.map_cons] at h
      cases hb : f b with
      | error other =>
        rw [hb] at h
        obtain rfl := Except.error.inj h
        exact ⟨[], b, l, rfl, fun _ hc => absurd hc List.not_mem_nil, hb⟩
      | ok v =>
        rw [hb, collect] at h
        cases hrest : collect (l.map f) with
        | ok values =>
          rw [hrest] at h
          exact absurd h (by simp)
        | error other =>
          rw [hrest] at h
          obtain rfl := Except.error.inj h
          obtain ⟨before, c, after, rfl, hbefore, hc⟩ := ih hrest
          exact ⟨b :: before, c, after, rfl, List.forall_mem_cons.mpr ⟨⟨v, hb⟩, hbefore⟩, hc⟩
  · rintro ⟨before, b, after, rfl, hbefore, hb⟩
    obtain ⟨values, hvalues⟩ := exists_collect_eq_ok_iff.mpr hbefore
    rw [List.map_append, List.map_cons, collect_append, hvalues, hb]
    rfl

end Map

/-! ### Single values -/

/-- A kind has single values only. -/
theorem Kind.leaves_of_parse? {kind : Kind} {input : List Char} {v : Value}
    (h : kind.parse? input = some v) : v.leaves = [v] ∧ v.HasDims 0 := by
  have hscalar : ∀ elements, v ≠ .array elements := by
    rintro elements rfl
    cases kind with
    | text => exact nomatch h
    | char =>
      rw [parse?.eq_def] at h
      split at h <;> simp_all
    | _ => simp [parse?] at h
  refine ⟨?_, hscalar⟩
  cases v with
  | array elements => exact absurd rfl (hscalar elements)
  | _ => rfl

theorem Kind.leaves_convert (kind : Kind) (input : List Char) :
    (kind.convert input).map Value.leaves = collect [kind.convert input] := by
  cases h : kind.convert input with
  | error e => rfl
  | ok v =>
    have hleaves := (leaves_of_parse? (convert_eq_ok_iff.mp h)).1
    simp only [Except.map, collect, hleaves]

/-! ### Conversion without trimming -/

/-- The blanks around an input are disregarded. -/
theorem convertIn_trim (kind : Kind) (d : Nat) (input : List Char) :
    convertIn kind d (trim input) = convertIn kind d input := by
  have htwice : trim (trim input) = trim input := trim_eq_self (trimmed_trim input)
  cases d with
  | zero => simp only [convertIn, Kind.convert, htwice]
  | succ inner => simp only [convertIn, htwice]

/-- Trimming an input only takes blanks off the first and the last one of its parts. -/
theorem map_splitAll_trim {β : Type} {f : List Char → β} (hf : ∀ s, f (trim s) = f s) {sep : Char}
    (hsep : isBlank sep = false) (input : List Char) :
    (splitAll sep (trim input)).map f = (splitAll sep input).map f := by
  obtain ⟨front, back, hinput, hfront, hback⟩ := exists_strip isBlank input
  have hwhole : ∀ {blank : List Char}, (∀ c ∈ blank, isBlank c = true) →
      splitAll sep blank = [] ++ [blank] := fun h =>
    splitAll_of_not_mem fun hmem => absurd ((h sep hmem).symm.trans hsep) (by simp)
  have hpad : ∀ {first last : List Char}, (∀ c ∈ first, isBlank c = true) →
      (∀ c ∈ last, isBlank c = true) → ∀ s, f (first ++ s ++ last) = f s := by
    intro first last hfirst hlast s
    rw [← hf, trim_append hfirst hlast, hf]
  have hnone : ∀ c ∈ ([] : List Char), isBlank c = true := fun c hc => absurd hc List.not_mem_nil
  -- first the blanks in front, then those behind
  have hleft : (splitAll sep (front ++ trim input)).map f = (splitAll sep (trim input)).map f := by
    obtain ⟨next, rest, hnext⟩ := List.exists_cons_of_ne_nil (splitAll_ne_nil sep (trim input))
    have hone := hpad hfront hnone next
    rw [List.append_nil] at hone
    rw [splitAll_append_of_meet (hwhole hfront) hnext, hnext, List.nil_append,
      List.map_cons, List.map_cons, hone]
  obtain ⟨first, last, hlast⟩ := exists_splitAll_last sep (front ++ trim input)
  have hright := splitAll_append_of_meet hlast (hwhole hback)
  rw [← hleft, hlast]
  conv_rhs => rw [hinput]
  change _ = (splitAll sep (front ++ trim input ++ back)).map f
  rw [hright, List.map_append, List.map_append, List.map_singleton, List.map_singleton]
  have hone := hpad hnone hback last
  rw [List.nil_append] at hone
  rw [hone]

/-- **One more dimension**: an input that is not blank is converted part by part. -/
theorem convertIn_succ (kind : Kind) (inner : Nat) (input : List Char) :
    convertIn kind (inner + 1) input =
      if input.all isBlank then .ok (.array [])
      else
        (collect ((splitAll (separator inner) input).map (convertIn kind inner))).map .array := by
  have hblank : trim input = [] ↔ input.all isBlank = true := by
    rw [List.all_eq_true]
    exact strip_eq_nil_iff
  have hparts := map_splitAll_trim (convertIn_trim kind inner) (isBlank_separator inner) input
  rw [convertIn]
  by_cases h : trim input = []
  · rw [if_pos (hblank.mp h)]
    exact if_pos h
  · rw [if_neg (mt hblank.mpr h), if_neg h, hparts]
    cases collect ((splitAll (separator inner) input).map (convertIn kind inner)) <;> rfl

/-! ### Leaf by leaf -/

/-- Parts that are converted leaf by leaf. -/
theorem leavesAll_collect {kind : Kind} {inner : Nat}
    (h : ∀ part, (convertIn kind inner part).map Value.leaves =
      collect ((leafTexts inner part).map kind.convert)) (parts : List (List Char)) :
    (collect (parts.map (convertIn kind inner))).map Value.leavesAll =
      collect ((parts.flatMap (leafTexts inner)).map kind.convert) := by
  induction parts with
  | nil => rfl
  | cons part parts ih =>
    rw [List.flatMap_cons, List.map_append, collect_append, ← h part, ← ih, List.map_cons]
    cases convertIn kind inner part with
    | error e => rfl
    | ok v =>
      rw [collect]
      cases collect (parts.map (convertIn kind inner)) <;> rfl

/-- **What becomes of an input is what becomes of its leaves**, one after the other. -/
theorem leaves_convertIn (kind : Kind) (d : Nat) (input : List Char) :
    (convertIn kind d input).map Value.leaves =
      collect ((leafTexts d input).map kind.convert) := by
  induction d generalizing input with
  | zero => exact kind.leaves_convert input
  | succ inner ih =>
    rw [convertIn_succ, leafTexts]
    split
    · rfl
    · rw [← leavesAll_collect ih]
      cases collect ((splitAll (separator inner) input).map (convertIn kind inner)) <;> rfl

/-- A value has the dimensions that it was converted to. -/
theorem hasDims_of_convertIn {kind : Kind} {d : Nat} {input : List Char} {v : Value}
    (h : convertIn kind d input = .ok v) : v.HasDims d := by
  induction d generalizing input v with
  | zero => exact (Kind.leaves_of_parse? (Kind.convert_eq_ok_iff.mp h)).2
  | succ inner ih =>
    rcases convertIn_succ_eq_ok_iff.mp h with ⟨-, rfl⟩ | ⟨-, values, rfl, hparts⟩
    · exact ⟨[], rfl, fun _ he => absurd he List.not_mem_nil⟩
    · refine ⟨values, rfl, fun v hv => ?_⟩
      obtain ⟨part, -, hconvert⟩ := exists_piece hparts hv
      exact ih hconvert

/-! ### Padding -/

/-- A margin of an input is a margin of the part that it lies in. -/
theorem Margin.inner {inner : Nat} {before after last next : List Char}
    {first rest : List (List Char)} (h : Margin (inner + 1) before after)
    (hbefore : splitAll (separator inner) before = first ++ [last])
    (hafter : splitAll (separator inner) after = next :: rest) : Margin inner last next := by
  have hinner : ∀ {i}, i < inner + 1 → separator i ≠ separator inner → i < inner := by
    intro i hi hne
    refine Nat.lt_of_le_of_ne (Nat.le_of_lt_succ hi) ?_
    rintro rfl
    exact hne rfl
  rcases h with rfl | rfl | ⟨i, hi, hend | hstart⟩
  · have hempty : [] ++ [[]] = first ++ [last] := hbefore
    exact .inl (List.singleton_inj.mp (List.append_inj' hempty rfl).2).symm
  · exact .inr (.inl (List.cons.inj hafter).1.symm)
  · obtain ⟨before, rfl⟩ := List.getLast?_eq_some_iff.mp hend
    rcases last_of_splitAll_concat hbefore with ⟨-, hlast⟩ | ⟨hne, hlast⟩
    · exact .inl hlast
    · exact .inr (.inr ⟨i, hinner hi hne, .inl hlast⟩)
  · obtain ⟨after, rfl⟩ := List.head?_eq_some_iff.mp hstart
    rcases first_of_splitAll_cons hafter with ⟨-, hnext⟩ | ⟨hne, hnext⟩
    · exact .inr (.inl hnext)
    · exact .inr (.inr ⟨i, hinner hi hne, .inr hnext⟩)

/-- **A blank at a margin makes no difference.** -/
theorem convertIn_pad {kind : Kind} {d : Nat} {before after : List Char} {c : Char}
    (hc : isBlank c = true) (h : Margin d before after) :
    convertIn kind d (before ++ c :: after) = convertIn kind d (before ++ after) := by
  have hblank : ∀ b ∈ [c], isBlank b = true := by simpa using hc
  have hnone : ∀ b ∈ ([] : List Char), isBlank b = true := fun b hb => absurd hb List.not_mem_nil
  induction d generalizing before after with
  | zero =>
    rw [← convertIn_trim, ← convertIn_trim _ _ (before ++ after)]
    rcases h with rfl | rfl | ⟨i, hi, -⟩
    · have hfront := trim_append hblank hnone after
      rw [List.append_nil] at hfront
      exact congrArg _ hfront
    · have hback := trim_append hnone hblank before
      rw [List.append_nil]
      exact congrArg _ hback
    · exact absurd hi (Nat.not_lt_zero i)
  | succ inner ih =>
    have hne : c ≠ separator inner := by
      rintro rfl
      exact absurd (hc.symm.trans (isBlank_separator inner)) (by simp)
    -- the blank goes into the part in which the two sides of the margin meet
    obtain ⟨first, last, hbefore⟩ := exists_splitAll_last (separator inner) before
    obtain ⟨next, rest, hafter⟩ :=
      List.exists_cons_of_ne_nil (splitAll_ne_nil (separator inner) after)
    have hpadded : splitAll (separator inner) (c :: after) = (c :: next) :: rest := by
      rw [splitAll, if_neg hne, hafter]
    have hall : (before ++ c :: after).all isBlank = (before ++ after).all isBlank := by
      simp [hc]
    rw [convertIn_succ, convertIn_succ, hall, splitAll_append_of_meet hbefore hpadded,
      splitAll_append_of_meet hbefore hafter, List.map_append, List.map_append, List.map_cons,
      List.map_cons, ih (h.inner hbefore hafter)]

theorem convertIn_of_repadded {kind : Kind} {d : Nat} {input other : List Char}
    (h : Repadded d input other) : convertIn kind d other = convertIn kind d input := by
  induction h with
  | pad hc hmargin => exact convertIn_pad hc hmargin
  | refl input => rfl
  | symm _ ih => exact ih.symm
  | trans _ _ ihleft ihright => exact ihright.trans ihleft

/-! ### Conversion of arrays -/

/-- An input is converted exactly if all its leaves are. -/
theorem exists_convertIn_eq_ok_iff {kind : Kind} {d : Nat} {input : List Char} :
    (∃ v, convertIn kind d input = .ok v) ↔
      ∀ text ∈ leafTexts d input, ∃ leaf, kind.convert text = .ok leaf := by
  rw [← exists_collect_eq_ok_iff, ← leaves_convertIn]
  cases convertIn kind d input <;> simp [Except.map]

/-- An input is refused as the first one of its leaves that is refused. -/
theorem convertIn_eq_error_iff {kind : Kind} {d : Nat} {input : List Char} {e : ConversionError} :
    convertIn kind d input = .error e ↔
      ∃ (before : List (List Char)) (text : List Char) (after : List (List Char)),
      leafTexts d input = before ++ text :: after ∧
        (∀ earlier ∈ before, ∃ leaf, kind.convert earlier = .ok leaf) ∧
        kind.convert text = .error e := by
  rw [← collect_eq_error_iff, ← leaves_convertIn]
  cases convertIn kind d input <;> simp [Except.map]

/-- A refusal names the text without the blanks around it, and the kind. -/
theorem Kind.convert_eq_error_iff {kind : Kind} {input : List Char} {e : ConversionError} :
    kind.convert input = .error e ↔
      (∀ v, kind.convert input ≠ .ok v) ∧ e = .invalid (String.ofList (trim input)) kind.name := by
  rw [Kind.convert]
  cases kind.parse? (trim input) <;> simp [eq_comm]

/-- **Arrays are converted leaf by leaf.** For a type of up to three dimensions, an input is
converted exactly if all texts of its single values are, and then the single values of the result
are what these are converted to, in their order. Otherwise the first text that is refused decides:
it is named without the blanks around it, with the kind of the elements. Blanks at the margins of
the input make no difference. A type of more dimensions refuses every input. -/
theorem convert_leafwise (t : FieldType) (input : String) :
    (t.dimensions ≤ 3 →
      (∀ v, t.convert input = .ok v → v.HasDims t.dimensions ∧
        v.leaves.map .ok = (leafTexts t.dimensions input.toList).map t.kind.convert) ∧
      ((∃ v, t.convert input = .ok v) ↔
        ∀ text ∈ leafTexts t.dimensions input.toList, ∃ leaf, t.kind.convert text = .ok leaf) ∧
      (∀ e, t.convert input = .error e ↔
        ∃ (before : List (List Char)) (text : List Char) (after : List (List Char)),
        leafTexts t.dimensions input.toList = before ++ text :: after ∧
        (∀ earlier ∈ before, ∃ leaf, t.kind.convert earlier = .ok leaf) ∧
        (∀ leaf, t.kind.convert text ≠ .ok leaf) ∧
        e = .invalid (String.ofList (trim text)) t.kind.name) ∧
      ∀ other : String, Repadded t.dimensions input.toList other.toList →
        t.convert other = t.convert input) ∧
    (3 < t.dimensions → t.convert input = .error (.tooManyDimensions t.dimensions)) := by
  refine ⟨fun hdims => ?_, fun hdims => if_pos hdims⟩
  have hconvert : ∀ input : String, t.convert input =
      convertIn t.kind t.dimensions input.toList := fun input => if_neg (Nat.not_lt.mpr hdims)
  simp only [hconvert]
  refine ⟨fun v hv => ⟨hasDims_of_convertIn hv, ?_⟩, exists_convertIn_eq_ok_iff, fun e => ?_,
    fun other => convertIn_of_repadded⟩
  · have hleaves := leaves_convertIn t.kind t.dimensions input.toList
    rw [hv] at hleaves
    exact (collect_eq_ok_iff.mp hleaves.symm).symm
  · simp only [convertIn_eq_error_iff, Kind.convert_eq_error_iff]

/-- Numbers in three dimensions are converted, a blank between them or not. Of two words among
numbers the first one is named, whether or not there is a blank behind a comma; and a word by itself
is refused in four dimensions. -/
theorem convert_leafwise_words :
    let cube : FieldType := ⟨.int .int64, 3⟩
    let table : FieldType := ⟨.int .int64, 2⟩
    (∃ v, cube.convert "1,2;3|4" = .ok v ∧ v.HasDims 3 ∧
      v.leaves = [.int .int64 1, .int .int64 2, .int .int64 3, .int .int64 4] ∧
      cube.convert "1,2;3| 4" = .ok v) ∧
    cube.convert "1,2;x|y" = .error (.invalid "x" "i64") ∧
    table.convert "1,2;; x ;y" = .error (.invalid "x" "i64") ∧
    table.convert "1, 2;; x ;y" = .error (.invalid "x" "i64") ∧
    (FieldType.mk .text 4).convert "x" = .error (.tooManyDimensions 4) := by
  intro cube table
  obtain ⟨hkept, haccepted, -, hcubePadded⟩ := (convert_leafwise cube "1,2;3|4").1 (by decide)
  obtain ⟨-, -, hcubeRefused, -⟩ := (convert_leafwise cube "1,2;x|y").1 (by decide)
  obtain ⟨-, -, hrefused, hpadded⟩ := (convert_leafwise table "1,2;; x ;y").1 (by decide)
  have htexts : leafTexts 3 "1,2;3|4".toList = [['1'], ['2'], ['3'], ['4']] := by decide
  have hones : ∀ earlier ∈ [['1'], ['2']],
      ∃ leaf, (Kind.int .int64).convert earlier = .ok leaf := by
    rw [List.forall_mem_cons, List.forall_mem_singleton]
    exact ⟨⟨.int .int64 1, rfl⟩, .int .int64 2, rfl⟩
  have hfirst : table.convert "1,2;; x ;y" = .error (.invalid "x" "i64") :=
    (hrefused _).mpr ⟨[['1'], ['2']], " x ".toList, [['y']], by decide, hones,
      fun leaf hleaf => (nomatch hleaf), rfl⟩
  have hcubePad : Repadded 3 "1,2;3|4".toList "1,2;3| 4".toList :=
    @Repadded.pad _ "1,2;3|".toList "4".toList ' ' (by decide)
      (.inr (.inr ⟨2, by decide, .inl rfl⟩))
  have hpad : Repadded 2 "1,2;; x ;y".toList "1, 2;; x ;y".toList :=
    @Repadded.pad _ "1,".toList "2;; x ;y".toList ' ' (by decide)
      (.inr (.inr ⟨0, by decide, .inl rfl⟩))
  refine ⟨?_, ?_, hfirst, (hpadded _ hpad).trans hfirst,
    (convert_leafwise ⟨.text, 4⟩ "x").2 (by decide)⟩
  · have hall : ∀ text ∈ leafTexts 3 "1,2;3|4".toList,
        ∃ leaf, cube.kind.convert text = .ok leaf := by
      rw [htexts]
      simp only [List.forall_mem_cons, List.not_mem_nil, false_imp_iff, implies_true, and_true]
      exact ⟨⟨.int .int64 1, rfl⟩, ⟨.int .int64 2, rfl⟩, ⟨.int .int64 3, rfl⟩, .int .int64 4, rfl⟩
    obtain ⟨v, hv⟩ := haccepted.mpr hall
    obtain ⟨hdims, hleaves⟩ := hkept v hv
    refine ⟨v, hv, hdims, ?_, (hcubePadded _ hcubePad).trans hv⟩
    refine (List.map_inj_right fun a b => Except.ok.inj).mp (hleaves.trans ?_)
    exact (congrArg (List.map cube.kind.convert) htexts).trans rfl
  · exact (hcubeRefused _).mpr ⟨[['1'], ['2']], ['x'], [['y']], by decide, hones,
      fun leaf hleaf => (nomatch hleaf), rfl⟩

end WebMount.Form
