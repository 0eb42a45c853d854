import Mathlib.Data.List.TakeDrop
import WebMount.Proofs.Text.Slice
import WebMount.Text.Blank
import WebMount.Text.Reader

/-!
# What readers read back

A reader **takes** a text for a value if it reads the value off every text that begins with it
and leaves exactly what follows. Since nothing is assumed of what follows, the texts of readers
that stand one after the other are simply put together (`Takes.bind`), and a written form is read
back by taking it to pieces in the order of the readers.
-/

namespace WebMount.Text

/-! ### Texts without blank ends -/

/-- Nothing is stripped off a list whose two ends stay. -/
theorem strip_eq_self {α : Type} {p : α → Bool} {l : List α}
    (hfirst : ∀ a ∈ l.head?, p a = false) (hlast : ∀ a ∈ l.getLast?, p a = false) :
    strip p l = l := by
  have hkeep : ∀ m : List α, (∀ a ∈ m.head?, p a = false) → m.dropWhile p = m := by
    intro m hm
    cases m with
    | nil => rfl
    | cons a m => rw [List.dropWhile_cons_of_neg (by simp [hm a rfl])]
  have hrev : l.reverse.dropWhile p = l.reverse :=
    hkeep l.reverse fun a ha => hlast a (by rwa [List.head?_reverse] at ha)
  rw [strip, hkeep l hfirst, hrev, List.reverse_reverse]

namespace Reader

variable {α β : Type}

/-- The reader reads `a` off every text that begins with `text`, and leaves what follows. -/
def Takes (r : Reader α) (text : List Char) (a : α) : Prop :=
  ∀ rest, r.run (text ++ rest) = some (a, rest)

theorem Takes.pure (a : α) : (Pure.pure a : Reader α).Takes [] a :=
  fun _ => rfl

/-- What a reader takes, followed by what the next one takes. -/
theorem Takes.bind {r : Reader α} {f : α → Reader β} {text more : List Char} {a : α} {b : β}
    (h : r.Takes text a) (hf : (f a).Takes more b) : (r >>= f).Takes (text ++ more) b := by
  intro rest
  rw [StateT.run_bind, List.append_assoc, h (more ++ rest)]
  exact hf rest

/-- A reader of a whole text reads what it takes. -/
theorem Takes.whole {r : Reader α} {text : List Char} {a : α} (h : r.Takes text a) :
    r.whole text = some a := by
  have hrun := h []
  rw [List.append_nil] at hrun
  rw [Reader.whole, hrun]

theorem satisfy_takes {p : Char → Bool} {c : Char} (h : p c = true) :
    (satisfy p).Takes [c] c := by
  intro rest
  change (if p c then some (c, rest) else none) = some (c, rest)
  rw [if_pos h]

theorem literal_takes (t : List Char) : (literal t).Takes t () := by
  intro rest
  change (dropStart? t (t ++ rest)).map (fun rest => ((), rest)) = some ((), rest)
  rw [dropStart?_eq_some.mpr rfl, Option.map_some]

theorem char_takes (c : Char) : (char c).Takes [c] () :=
  literal_takes [c]

theorem run_char (c : Char) (rest : List Char) : (char c).run (c :: rest) = some ((), rest) :=
  char_takes c rest

/-- A text is taken up to the mark behind it if it does not hold the mark. -/
theorem through_takes {mark : Char} {text : List Char} (h : mark ∉ text) :
    (through mark).Takes (text ++ [mark]) text := by
  intro rest
  rw [List.append_assoc]
  exact splitFirst?_append rest h

/-- What a reader reads off a text is handed to the next one, with the rest of the text. -/
theorem run_bind_of {r : Reader α} {f : α → Reader β} {s rest : List Char} {a : α}
    (h : r.run s = some (a, rest)) : (r >>= f).run s = (f a).run rest := by
  rw [StateT.run_bind, h]
  rfl

/-- Of two readers, the second one reads only what the first one refuses. -/
theorem run_orElse_of_some {r q : Reader α} {s rest : List Char} {a : α}
    (h : r.run s = some (a, rest)) : (r <|> q).run s = some (a, rest) := by
  change (r.run s <|> q.run s) = some (a, rest)
  rw [h]
  rfl

theorem run_orElse_of_none {r q : Reader α} {s : List Char} (h : r.run s = none) :
    (r <|> q).run s = q.run s := by
  change (r.run s <|> q.run s) = q.run s
  rw [h]
  rfl

/-- Characters are read as long as they satisfy the predicate. -/
theorem run_many {p : Char → Bool} {text rest : List Char} (htext : ∀ c ∈ text, p c = true)
    (hrest : ∀ c ∈ rest.head?, p c = false) : (many p).run (text ++ rest) = some (text, rest) := by
  have hstop : rest.takeWhile p = [] ∧ rest.dropWhile p = rest := by
    cases rest with
    | nil => exact ⟨rfl, rfl⟩
    | cons c rest =>
      have hc := hrest c rfl
      exact ⟨List.takeWhile_cons_of_neg (by simp [hc]), List.dropWhile_cons_of_neg (by simp [hc])⟩
  change some ((text ++ rest).span p) = some (text, rest)
  rw [List.span_eq_takeWhile_dropWhile, List.takeWhile_append_of_pos htext,
    List.dropWhile_append_of_pos htext, hstop.1, hstop.2, List.append_nil]

theorem run_many1 {p : Char → Bool} {text rest : List Char} (hne : text ≠ [])
    (htext : ∀ c ∈ text, p c = true) (hrest : ∀ c ∈ rest.head?, p c = false) :
    (many1 p).run (text ++ rest) = some (text, rest) := by
  obtain ⟨c, text, rfl⟩ := List.exists_cons_of_ne_nil hne
  rw [List.forall_mem_cons] at htext
  have hfirst : (satisfy p).run (c :: (text ++ rest)) = some (c, text ++ rest) :=
    satisfy_takes htext.1 (text ++ rest)
  rw [many1, List.cons_append, run_bind_of hfirst, run_bind_of (run_many htext.2 hrest)]
  rfl

/-- A repeated reader reads once more. -/
theorem takeAll_cons {r : Reader α} {c : Char} {limit s rest : List Char} {found : List α} {a : α}
    (h : r.run s = some (a, rest)) :
    takeAll r (c :: limit) s found = takeAll r limit rest (a :: found) := by
  rw [takeAll, h]

/-- A repeated reader stops where it refuses. -/
theorem takeAll_of_none {r : Reader α} {s : List Char} (h : r.run s = none) (limit : List Char)
    (found : List α) : takeAll r limit s found = (found.reverse, s) := by
  cases limit with
  | nil => rfl
  | cons c limit => rw [takeAll, h]

/-- A repeated reader takes the texts of values one after the other, and stops where it refuses. -/
theorem run_repeated {r : Reader α} {text : α → List Char} {values : List α} {rest : List Char}
    (htakes : ∀ a ∈ values, r.Takes (text a) a) (hstop : r.run rest = none) :
    (repeated r).run (values.flatMap text ++ rest) = some (values, rest) := by
  -- a value without text would be read off what the reader refuses
  have hpos : ∀ a ∈ values, 0 < (text a).length := by
    intro a ha
    refine List.length_pos_iff.mpr fun hnil => ?_
    have hread := htakes a ha rest
    rw [hnil, List.nil_append, hstop] at hread
    exact absurd hread (by simp)
  -- the limit falls with the text, and what was found grows, so both are left open
  have hall : ∀ (limit : List Char) (found : List α),
      (values.flatMap text ++ rest).length ≤ limit.length →
      takeAll r limit (values.flatMap text ++ rest) found = (found.reverse ++ values, rest) := by
    induction values with
    | nil =>
      intro limit found _
      rw [List.append_nil]
      cases limit with
      | nil => rfl
      | cons c limit => simp [takeAll, hstop]
    | cons a values ih =>
      intro limit found hlimit
      have hfirst := hpos a List.mem_cons_self
      rw [List.flatMap_cons, List.append_assoc, List.length_append] at hlimit
      cases limit with
      | nil => exact absurd hlimit (by simp only [List.length_nil]; omega)
      | cons c limit =>
        rw [List.length_cons] at hlimit
        have hvalue := htakes a List.mem_cons_self (values.flatMap text ++ rest)
        have hvalues := ih (fun b hb => htakes b (List.mem_cons_of_mem a hb))
          (fun b hb => hpos b (List.mem_cons_of_mem a hb)) limit (a :: found) (by omega)
        rw [List.flatMap_cons, List.append_assoc, takeAll, hvalue]
        simpa using hvalues
  exact congrArg some (hall _ [] (Nat.le_refl _))

/-- What a repeated reader takes, followed by what it refuses and the next one takes. -/
theorem Takes.repeated_bind {r : Reader α} {text : α → List Char} {values : List α}
    {f : List α → Reader β} {more : List Char} {b : β}
    (htakes : ∀ a ∈ values, r.Takes (text a) a) (hstop : ∀ rest, r.run (more ++ rest) = none)
    (hf : (f values).Takes more b) :
    (repeated r >>= f).Takes (values.flatMap text ++ more) b := by
  intro rest
  rw [StateT.run_bind, List.append_assoc, run_repeated htakes (hstop rest)]
  exact hf rest

/-- The entries of a table of texts of one length exclude each other, so each is found at its
place. -/
theorem oneOf_takes {table : List (List Char)} {entry : List Char} {n i : Nat}
    (hlen : ∀ e ∈ table, e.length = n) (hnodup : table.Nodup) (hi : table[i]? = some entry) :
    (oneOf table).Takes entry i := by
  intro rest
  -- places are counted from any `k`, so that the induction can go on with the rest of the table
  have hfind : ∀ k : Nat, (table.zipIdx k).findSome? (fun e =>
      (dropStart? e.1 (entry ++ rest)).map fun rest => (e.2, rest)) = some (k + i, rest) := by
    induction table generalizing i with
    | nil => simp at hi
    | cons first table ih =>
      intro k
      obtain ⟨hfirst, htable⟩ := List.nodup_cons.mp hnodup
      rw [List.zipIdx_cons, List.findSome?_cons]
      cases i with
      | zero =>
        obtain rfl : first = entry := by simpa using hi
        have hself : dropStart? first (first ++ rest) = some rest := dropStart?_eq_some.mpr rfl
        simp only [hself, Option.map_some, Nat.add_zero]
      | succ i =>
        have hentry : table[i]? = some entry := by simpa using hi
        have hmem : entry ∈ table := List.mem_of_getElem? hentry
        -- an earlier entry that stands at the front of the text would be the entry itself
        have hnone : dropStart? first (entry ++ rest) = none := by
          rw [Option.eq_none_iff_forall_ne_some]
          intro t ht
          have hsame : first.length = entry.length := by
            rw [hlen first List.mem_cons_self, hlen entry (List.mem_cons_of_mem _ hmem)]
          obtain ⟨rfl, -⟩ := List.append_inj (dropStart?_eq_some.mp ht).symm hsame
          exact hfirst hmem
        have hrest := ih (fun e he => hlen e (List.mem_cons_of_mem _ he)) htable hentry (k + 1)
        simp only [hnone, Option.map_none, hrest]
        rw [Nat.add_assoc, Nat.add_comm 1 i]
  change (table.zipIdx 0).findSome? _ = some (i, rest)
  rw [hfind 0, Nat.zero_add]

end Reader

end WebMount.Text
