import WebMount.Proofs.Text.Blank
import WebMount.Proofs.Text.Utf8
import WebMount.Xml.Entity
import WebMount.Xml.Event

/-!
# Character data that follows each other

Character data that is in order ends where a character and a reference end, so what is put behind it
is read by itself (`charactersOf?_append`). The spaces of markup are blank characters wherever they
stand (`exists_charactersOf?_spaces`), and no character and no reference goes on in them
(`exists_charactersOf?_of_append`). So spaces at the ends of character data come to blanks at the
ends of its text, and to nothing in its trimmed text (`map_trim_charactersOf?_strip`).
-/

namespace WebMount.Xml

open WebMount.Text

/-! ### References -/

/-- Text whose references are in order leaves no reference open. -/
theorem unescapeFrom?_append {opened : Option (List Char)} {s u : List Char}
    (h : unescapeFrom? opened s = some u) (t : List Char) :
    unescapeFrom? opened (s ++ t) = (unescapeFrom? none t).map (u ++ ·) := by
  induction s generalizing opened u with
  | nil =>
    rw [unescapeFrom?] at h
    split at h
    · exact absurd h (by simp)
    · next hopened =>
      obtain rfl := Option.some.inj h
      rw [Option.not_isSome_iff_eq_none] at hopened
      rw [hopened, List.nil_append]
      exact Option.map_id'.symm
  | cons c s ih =>
    rw [List.cons_append, unescapeFrom?.eq_def]
    rw [unescapeFrom?.eq_def] at h
    dsimp only at h ⊢
    cases opened with
    | none =>
      dsimp only at h ⊢
      split at h
      · next hand => rw [if_pos hand]; exact ih h
      · next hand =>
        obtain ⟨v, hv, rfl⟩ := Option.map_eq_some_iff.mp h
        rw [if_neg hand, ih hv, Option.map_map]
        rfl
    | some name =>
      dsimp only at h ⊢
      split at h
      · exact absurd h (by simp)
      · next hand =>
        rw [if_neg hand]
        split at h
        · next hsemicolon =>
          simp only [Option.bind_eq_bind, Option.bind_eq_some_iff, Option.pure_def,
            Option.some.injEq] at h
          obtain ⟨d, hd, v, hv, rfl⟩ := h
          rw [if_pos hsemicolon, hd, ih hv]
          cases unescapeFrom? none t <;> rfl
        · next hsemicolon => rw [if_neg hsemicolon]; exact ih h

theorem unescape?_append {s u : List Char} (h : unescape? s = some u) (t : List Char) :
    unescape? (s ++ t) = (unescape? t).map (u ++ ·) :=
  unescapeFrom?_append h t

/-- Text without `&` has no references. -/
theorem unescape?_eq_self {s : List Char} (h : '&' ∉ s) : unescape? s = some s := by
  induction s with
  | nil => rfl
  | cons c s ih =>
    rw [List.mem_cons, not_or] at h
    rw [unescape?] at ih
    rw [unescape?, unescapeFrom?, if_neg (Ne.symm h.1), ih h.2, Option.map_some]

/-- An open reference is not closed without a semicolon. -/
theorem unescapeFrom?_eq_none {name s : List Char} (h : ';' ∉ s) :
    unescapeFrom? (some name) s = none := by
  induction s generalizing name with
  | nil => rfl
  | cons c s ih =>
    rw [List.mem_cons, not_or] at h
    rw [unescapeFrom?]
    split
    · rfl
    · rw [if_neg (Ne.symm h.1), ih h.2]

/-- References that are in order with a text behind them that has no marks of references are in
order without it. -/
theorem exists_unescapeFrom?_of_append {opened : Option (List Char)} {s t u : List Char}
    (ht : ';' ∉ t) (h : unescapeFrom? opened (s ++ t) = some u) :
    ∃ v, unescapeFrom? opened s = some v := by
  induction s generalizing opened u with
  | nil =>
    cases opened with
    | none => exact ⟨[], rfl⟩
    | some name =>
      rw [List.nil_append, unescapeFrom?_eq_none ht] at h
      exact absurd h (by simp)
  | cons c s ih =>
    rw [unescapeFrom?.eq_def]
    rw [List.cons_append, unescapeFrom?.eq_def] at h
    dsimp only at h ⊢
    cases opened with
    | none =>
      dsimp only at h ⊢
      split at h
      · next hand => rw [if_pos hand]; exact ih h
      · next hand =>
        obtain ⟨v, hv, -⟩ := Option.map_eq_some_iff.mp h
        obtain ⟨w, hw⟩ := ih hv
        exact ⟨c :: w, by rw [if_neg hand, hw, Option.map_some]⟩
    | some name =>
      dsimp only at h ⊢
      split at h
      · exact absurd h (by simp)
      · next hand =>
        rw [if_neg hand]
        split at h
        · next hsemicolon =>
          simp only [Option.bind_eq_bind, Option.bind_eq_some_iff] at h
          obtain ⟨d, hd, v, hv, -⟩ := h
          obtain ⟨w, hw⟩ := ih hv
          exact ⟨d :: w, by rw [if_pos hsemicolon, hd, hw]; rfl⟩
        · next hsemicolon => rw [if_neg hsemicolon]; exact ih h

/-! ### Character data -/

theorem charactersOf?_eq_some_iff {content : Bytes} {text : List Char} :
    charactersOf? content = some text ↔
      ∃ decoded, Utf8.decode? content = some decoded ∧ unescape? decoded = some text :=
  Option.bind_eq_some_iff

/-- **What stands behind character data that is in order is read by itself.** -/
theorem charactersOf?_append {a : Bytes} {s : List Char} (h : charactersOf? a = some s)
    (b : Bytes) : charactersOf? (a ++ b) = (charactersOf? b).map (s ++ ·) := by
  obtain ⟨decoded, hdecoded, hs⟩ := charactersOf?_eq_some_iff.mp h
  rw [charactersOf?, charactersOf?, Utf8.decode?_append hdecoded]
  cases Utf8.decode? b with
  | none => rfl
  | some t => exact unescape?_append hs t

/-- What a space of markup is as a character. -/
theorem isSpace_iff {b : UInt8} : isSpace b = true ↔ b ∈ [32, 9, 13, 10] := by
  simp [isSpace, or_assoc]

theorem lt_of_isSpace {b : UInt8} (h : isSpace b = true) : b < 0x80 := by
  have hall : [(32 : UInt8), 9, 13, 10].all (fun b => decide (b < 0x80)) = true := by decide
  exact of_decide_eq_true (List.all_eq_true.mp hall b (isSpace_iff.mp h))

/-- A space of markup is a blank character, and no mark of a reference. -/
theorem isBlank_of_isSpace {b : UInt8} (h : isSpace b = true) :
    isBlank (Char.ofNat b.toNat) = true ∧ Char.ofNat b.toNat ≠ '&' ∧ Char.ofNat b.toNat ≠ ';' := by
  have hall : [(32 : UInt8), 9, 13, 10].all (fun b => isBlank (Char.ofNat b.toNat) &&
      decide (Char.ofNat b.toNat ≠ '&' ∧ Char.ofNat b.toNat ≠ ';')) = true := by decide
  have hb := List.all_eq_true.mp hall b (isSpace_iff.mp h)
  rwa [Bool.and_eq_true, decide_eq_true_eq] at hb

/-- What spaces of markup are decoded as: blanks, without marks of references. -/
theorem exists_decode?_spaces {b : Bytes} (h : ∀ x ∈ b, isSpace x = true) :
    ∃ s, Utf8.decode? b = some s ∧ ∀ c ∈ s, isBlank c = true ∧ c ≠ '&' ∧ c ≠ ';' := by
  refine ⟨_, Utf8.decode?_ascii fun x hx => lt_of_isSpace (h x hx), fun c hc => ?_⟩
  obtain ⟨x, hx, rfl⟩ := List.mem_map.mp hc
  exact isBlank_of_isSpace (h x hx)

/-- Spaces of markup are blanks. -/
theorem exists_charactersOf?_spaces {b : Bytes} (h : ∀ x ∈ b, isSpace x = true) :
    ∃ s, charactersOf? b = some s ∧ ∀ c ∈ s, isBlank c = true := by
  obtain ⟨s, hs, hmarks⟩ := exists_decode?_spaces h
  refine ⟨s, ?_, fun c hc => (hmarks c hc).1⟩
  exact charactersOf?_eq_some_iff.mpr
    ⟨s, hs, unescape?_eq_self fun hand => (hmarks '&' hand).2.1 rfl⟩

/-- **Character data that is in order with spaces behind it is in order without them.** -/
theorem exists_charactersOf?_of_append {a b : Bytes} {t : List Char}
    (hb : ∀ x ∈ b, isSpace x = true) (h : charactersOf? (a ++ b) = some t) :
    ∃ s, charactersOf? a = some s := by
  obtain ⟨decoded, hdecoded, ht⟩ := charactersOf?_eq_some_iff.mp h
  obtain ⟨s, hs⟩ := Utf8.exists_decode?_of_append (fun x hx => lt_of_isSpace (hb x hx)) hdecoded
  obtain ⟨spaces, hspaces, hmarks⟩ := exists_decode?_spaces hb
  rw [Utf8.decode?_append hs, hspaces, Option.map_some, Option.some.injEq] at hdecoded
  rw [← hdecoded] at ht
  obtain ⟨u, hu⟩ :=
    exists_unescapeFrom?_of_append (fun hsemicolon => (hmarks ';' hsemicolon).2.2 rfl) ht
  exact ⟨u, charactersOf?_eq_some_iff.mpr ⟨s, hs, hu⟩⟩

/-- **Spaces at the ends of character data make no difference to its trimmed text.** -/
theorem map_trim_charactersOf?_strip (content : Bytes) :
    (charactersOf? (strip isSpace content)).map trim = (charactersOf? content).map trim := by
  obtain ⟨first, last, hcontent, hfirst, hlast⟩ := exists_strip isSpace content
  generalize strip isSpace content = inside at hcontent
  subst hcontent
  obtain ⟨blanks, hblanks, hblank⟩ := exists_charactersOf?_spaces hfirst
  obtain ⟨blanks', hblanks', hblank'⟩ := exists_charactersOf?_spaces hlast
  rw [List.append_assoc, charactersOf?_append hblanks]
  cases hinside : charactersOf? inside with
  | some text =>
    rw [charactersOf?_append hinside, hblanks']
    simp only [Option.map_some, trim, ← List.append_assoc, strip_append hblank hblank']
  | none =>
    cases hboth : charactersOf? (inside ++ last) with
    | none => rfl
    | some text =>
      obtain ⟨s, hs⟩ := exists_charactersOf?_of_append hlast hboth
      exact absurd (hinside.symm.trans hs) (by simp)

end WebMount.Xml
