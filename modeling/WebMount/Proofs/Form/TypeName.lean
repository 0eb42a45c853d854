import WebMount.Form.FieldType
import WebMount.Proofs.Text.Blank

/-!
# Names of types

The written form of a type is the name of its element kind and a pair of brackets for each
dimension, which is what writing the element type first and a pair behind it comes to
(`render_arrayOf`). A reader takes the pairs off the end as long as there is one. So it sees a text
as a stem that does not end with a pair, and the pairs behind it, and there is one way only to see
it so (`takeBrackets_eq_iff`). No name of a kind ends with a pair. Hence exactly the names with
pairs behind them are read, as what they say, and of all other texts the stem is reported
(`parse_of_stem`, `parse_exact`).
-/

namespace WebMount.Form

open WebMount.Text

/-! ### Names of kinds -/

namespace Kind

variable {name : String} {k : Kind}

/-- The names of kinds that are read. -/
def spellings : List String :=
  ["String", "string", "bool", "char", "i32", "i64", "u32", "u64", "f32", "f64"]

/-- The name that is written for one that is read. -/
def written (name : String) : String :=
  if name = "string" then "String" else name

theorem mem_all (k : Kind) : k ∈ all := by
  rcases k with _ | _ | _ | kind | kind
  · decide
  · decide
  · decide
  · cases kind <;> decide
  · cases kind <;> decide

theorem name_mem_spellings (k : Kind) : k.name ∈ spellings := by
  have hall : (all.all fun k => spellings.contains k.name) = true := by decide
  exact List.contains_iff_mem.mp (List.all_eq_true.mp hall k k.mem_all)

theorem written_name (k : Kind) : written k.name = k.name := by
  have hall : (all.all fun k => written k.name == k.name) = true := by decide
  exact beq_iff_eq.mp (List.all_eq_true.mp hall k k.mem_all)

theorem ofName?_eq_some_iff :
    ofName? name = some k ↔ name = k.name ∨ name = "string" ∧ k = text := by
  constructor
  · intro h
    rw [ofName?] at h
    split at h
    · next hstring => exact .inr ⟨hstring, (Option.some.inj h).symm⟩
    · have hname := List.find?_some h
      exact .inl (beq_iff_eq.mp hname).symm
  · rintro (rfl | ⟨rfl, rfl⟩)
    · exact ofName?_name k
    · rfl

/-- **The names that are read** are those of the kinds and one more. -/
theorem exists_ofName?_iff : (∃ k, ofName? name = some k) ↔ name ∈ spellings := by
  constructor
  · rintro ⟨k, h⟩
    rcases ofName?_eq_some_iff.mp h with rfl | ⟨rfl, -⟩
    · exact name_mem_spellings k
    · decide
  · intro h
    have hall : (spellings.all fun name => (ofName? name).isSome) = true := by decide
    exact Option.isSome_iff_exists.mp (List.all_eq_true.mp hall name h)

theorem name_of_ofName? (h : ofName? name = some k) : k.name = written name := by
  rcases ofName?_eq_some_iff.mp h with rfl | ⟨rfl, rfl⟩
  · exact (written_name k).symm
  · rfl

end Kind

/-! ### Pairs of brackets -/

/-- Pairs of brackets. -/
def brackets (n : Nat) : List Char :=
  (List.replicate n ['[', ']']).flatten

theorem brackets_succ (n : Nat) : brackets (n + 1) = brackets n ++ ['[', ']'] := by
  rw [brackets, List.replicate_succ', List.flatten_append]
  rfl

namespace FieldType

variable {s stem : List Char} {n : Nat}

/-- The pairs at the end of a text are counted one by one. -/
theorem takeBrackets_append (s : List Char) (n : Nat) :
    takeBrackets (s ++ brackets n).reverse =
      ((takeBrackets s.reverse).1 + n, (takeBrackets s.reverse).2) := by
  induction n with
  | zero => exact congrArg (fun t => takeBrackets t.reverse) (List.append_nil s)
  | succ n ih =>
    rw [brackets_succ, ← List.append_assoc, List.reverse_append]
    exact congrArg (fun p : Nat × List Char => (p.1 + 1, p.2)) ih

theorem takeBrackets_of_not_suffix (h : ¬['[', ']'] <:+ stem) :
    takeBrackets stem.reverse = (0, stem.reverse) := by
  rw [takeBrackets.eq_def]
  split
  · next rest hstem =>
    refine absurd ⟨rest.reverse, ?_⟩ h
    rw [← List.reverse_inj, hstem, List.reverse_append, List.reverse_reverse]
    rfl
  · rfl

/-- A text is a stem that does not end with a pair, and pairs behind it. -/
theorem exists_stem (s : List Char) :
    ∃ (stem : List Char) (n : Nat), s = stem ++ brackets n ∧ ¬['[', ']'] <:+ stem := by
  -- pair by pair, as the reader takes them off
  have hreverse : ∀ r : List Char, ∃ (stem : List Char) (n : Nat),
      r.reverse = stem ++ brackets n ∧ ¬['[', ']'] <:+ stem := by
    intro r
    induction r using takeBrackets.induct with
    | case1 r _ _ _ ih =>
      obtain ⟨stem, n, hr, hstem⟩ := ih
      refine ⟨stem, n + 1, ?_, hstem⟩
      rw [brackets_succ, ← List.append_assoc, ← hr, List.reverse_cons, List.reverse_cons,
        List.append_assoc]
      rfl
    | case2 r hr =>
      refine ⟨r.reverse, 0, (List.append_nil _).symm, ?_⟩
      rintro ⟨front, hfront⟩
      refine hr front.reverse ?_
      rw [← List.reverse_inj, ← hfront, List.reverse_cons, List.reverse_cons, List.reverse_reverse,
        List.append_assoc]
      rfl
  have h := hreverse s.reverse
  rwa [List.reverse_reverse] at h

/-- **There is one way to see a text as a stem and pairs behind it**, and the reader finds it. -/
theorem takeBrackets_eq_iff : takeBrackets s.reverse = (n, stem.reverse) ↔
    s = stem ++ brackets n ∧ ¬['[', ']'] <:+ stem := by
  have hread : ∀ {s stem : List Char} {n : Nat}, s = stem ++ brackets n → ¬['[', ']'] <:+ stem →
      takeBrackets s.reverse = (n, stem.reverse) := by
    rintro s stem n rfl hstem
    rw [takeBrackets_append, takeBrackets_of_not_suffix hstem, Nat.zero_add]
  constructor
  · intro h
    obtain ⟨other, m, hs, hother⟩ := exists_stem s
    obtain ⟨rfl, hreverse⟩ := Prod.mk.inj (h.symm.trans (hread hs hother))
    obtain rfl := List.reverse_inj.mp hreverse
    exact ⟨hs, hother⟩
  · exact fun h => hread h.1 h.2

/-! ### Written forms -/

/-- The type of the arrays whose elements have a type. -/
def arrayOf (t : FieldType) : FieldType :=
  { t with dimensions := t.dimensions + 1 }

theorem toList_render (t : FieldType) :
    t.render.toList = t.kind.name.toList ++ brackets t.dimensions :=
  String.toList_ofList

/-- The written form of a kind by itself. -/
theorem render_scalar (k : Kind) : (⟨k, 0⟩ : FieldType).render = k.name := by
  rw [render, List.replicate_zero, List.flatten_nil, List.append_nil, String.ofList_toList]

/-- **Arrays are written as their elements with a pair of brackets behind them.** -/
theorem render_arrayOf (t : FieldType) : t.arrayOf.render = t.render ++ "[]" := by
  rw [← String.toList_inj, String.toList_append, toList_render, toList_render, arrayOf,
    brackets_succ, List.append_assoc]
  rfl

/-- No blank stands in a written form. -/
theorem isBlank_of_mem_render (t : FieldType) : ∀ c ∈ t.render.toList, isBlank c = false := by
  have hname : (Kind.spellings.all fun name => name.toList.all fun c => !isBlank c) = true := by
    decide
  have hbrackets : (['[', ']'].all fun c => !isBlank c) = true := by decide
  intro c hc
  rw [toList_render, List.mem_append] at hc
  rw [← Bool.not_eq_true']
  rcases hc with hc | hc
  · exact List.all_eq_true.mp (List.all_eq_true.mp hname _ t.kind.name_mem_spellings) c hc
  · obtain ⟨pair, hpair, hmem⟩ := List.mem_flatten.mp hc
    rw [List.eq_of_mem_replicate hpair] at hmem
    exact List.all_eq_true.mp hbrackets c hmem

theorem trim_render (t : FieldType) : trim t.render.toList = t.render.toList :=
  trim_eq_self (trimmed_of_forall t.isBlank_of_mem_render)

/-! ### Reading -/

/-- The stem of a text decides how it is read, and the pairs behind it are counted. -/
theorem parse_of_stem {text : String} (htext : trim text.toList = stem ++ brackets n)
    (hstem : ¬['[', ']'] <:+ stem) :
    parse text = (Kind.ofName? (String.ofList stem)).elim
      (.error (.unknownType (String.ofList stem))) fun kind => .ok ⟨kind, n⟩ := by
  rw [parse, takeBrackets_eq_iff.mpr ⟨htext, hstem⟩]
  dsimp only
  rw [List.reverse_reverse]
  cases Kind.ofName? (String.ofList stem) <;> rfl

theorem not_suffix_of_mem_spellings {name : String} (h : name ∈ Kind.spellings) :
    ¬['[', ']'] <:+ name.toList := by
  have hall : (Kind.spellings.all fun name => not (['[', ']'].isSuffixOf name.toList)) = true := by
    decide
  intro hend
  have hnot := List.all_eq_true.mp hall name h
  rw [Bool.not_eq_true', ← Bool.not_eq_true, List.isSuffixOf_iff_suffix] at hnot
  exact hnot hend

/-- A name of a kind with pairs behind it is read as what it says. -/
theorem parse_of_name {text name : String} (hname : name ∈ Kind.spellings)
    (htext : trim text.toList = name.toList ++ brackets n) :
    ∃ kind : Kind, kind.name = Kind.written name ∧ parse text = .ok ⟨kind, n⟩ := by
  obtain ⟨kind, hkind⟩ := Kind.exists_ofName?_iff.mpr hname
  refine ⟨kind, Kind.name_of_ofName? hkind, ?_⟩
  rw [parse_of_stem htext (not_suffix_of_mem_spellings hname), String.ofList_toList, hkind,
    Option.elim_some]

/-- **A written form is read as the type.** -/
theorem parse_render (t : FieldType) : parse t.render = .ok t := by
  have htext : trim t.render.toList = t.kind.name.toList ++ brackets t.dimensions := by
    rw [trim_render, toList_render]
  rw [parse_of_stem htext (not_suffix_of_mem_spellings t.kind.name_mem_spellings),
    String.ofList_toList, Kind.ofName?_name, Option.elim_some]

/-- **Names of types are read and written inversely.** A type is written as its element kind with a
pair of brackets for each dimension behind it, and what is written is read as the type. A text is
read exactly if, without the blanks around it, it is a name of a kind with pairs behind it; then it
is the type of this kind with as many dimensions as there are pairs, which is written as the text
with `String` for `string`. Of any other text that is reported which is left of it without the
blanks around it and the pairs at its end. -/
theorem parse_exact (text : String) :
    (∀ k : Kind, (⟨k, 0⟩ : FieldType).render = k.name) ∧
    (∀ t : FieldType, t.arrayOf.render = t.render ++ "[]") ∧
    (∀ t : FieldType, parse t.render = .ok t) ∧
    ((∃ t, parse text = .ok t) ↔ ∃ name ∈ Kind.spellings, ∃ n : Nat,
      trim text.toList = name.toList ++ brackets n) ∧
    (∀ name ∈ Kind.spellings, ∀ n : Nat, trim text.toList = name.toList ++ brackets n →
      ∃ kind : Kind, kind.name = Kind.written name ∧ parse text = .ok ⟨kind, n⟩ ∧
        (⟨kind, n⟩ : FieldType).render =
          String.ofList ((Kind.written name).toList ++ brackets n)) ∧
    ((∀ name ∈ Kind.spellings, ∀ n : Nat, trim text.toList ≠ name.toList ++ brackets n) →
      ∃ (stem : List Char) (n : Nat), trim text.toList = stem ++ brackets n ∧
        ¬['[', ']'] <:+ stem ∧ parse text = .error (.unknownType (String.ofList stem))) := by
  obtain ⟨stem, n, htext, hstem⟩ := exists_stem (trim text.toList)
  have hparse := parse_of_stem htext hstem
  refine ⟨render_scalar, render_arrayOf, parse_render, ⟨?_, ?_⟩, ?_, ?_⟩
  · rintro ⟨t, ht⟩
    cases hkind : Kind.ofName? (String.ofList stem) with
    | none => rw [hparse, hkind] at ht; exact absurd ht (by simp)
    | some kind =>
      refine ⟨String.ofList stem, Kind.exists_ofName?_iff.mp ⟨kind, hkind⟩, n, ?_⟩
      rw [htext, String.toList_ofList]
  · rintro ⟨name, hname, n, htext⟩
    obtain ⟨kind, -, hread⟩ := parse_of_name hname htext
    exact ⟨_, hread⟩
  · intro name hname n htext
    obtain ⟨kind, hkind, hread⟩ := parse_of_name hname htext
    refine ⟨kind, hkind, hread, ?_⟩
    rw [render, hkind]
    rfl
  · intro hnone
    refine ⟨stem, n, htext, hstem, ?_⟩
    cases hkind : Kind.ofName? (String.ofList stem) with
    | none => rw [hparse, hkind, Option.elim_none]
    | some kind =>
      refine absurd ?_ (hnone _ (Kind.exists_ofName?_iff.mp ⟨kind, hkind⟩) n)
      rw [htext, String.toList_ofList]

/-- Blanks around a name do not count; a blank between the name and its brackets does, and one pair
of brackets behind it is taken off all the same. -/
theorem parse_exact_spaced :
    (∃ kind : Kind, kind.name = "String" ∧ parse " string[][]\t" = .ok ⟨kind, 2⟩ ∧
      (⟨kind, 2⟩ : FieldType).render = "String[][]") ∧
    ∃ (stem : List Char) (n : Nat), stem ++ brackets n = "String [][]".toList ∧
      ¬['[', ']'] <:+ stem ∧ parse "String [][]" = .error (.unknownType (String.ofList stem)) := by
  constructor
  · obtain ⟨-, -, -, -, hread, -⟩ := parse_exact " string[][]\t"
    exact hread "string" (by decide) 2 (by decide)
  · obtain ⟨-, -, -, -, -, hrefused⟩ := parse_exact "String [][]"
    have htext : trim "String [][]".toList = "String ".toList ++ brackets 2 := by decide
    obtain ⟨stem, n, hstem, hend, hparse⟩ := hrefused fun name hname n hother => by
      have hname' := not_suffix_of_mem_spellings hname
      have hsame := (takeBrackets_eq_iff.mpr ⟨hother, hname'⟩).symm.trans
        (takeBrackets_eq_iff.mpr ⟨htext, by decide⟩)
      have hlist := List.reverse_inj.mp (Prod.mk.inj hsame).2
      rw [String.toList_inj.mp hlist] at hname
      exact absurd hname (by decide)
    exact ⟨stem, n, hstem.symm, hend, hparse⟩

end FieldType

end WebMount.Form
