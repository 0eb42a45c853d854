import WebMount.Text.Utf8

/-!
# UTF-8 is read back

The bytes of a text are decoded as the text (`Utf8.decodeLossy_encode`). A character is read byte
by byte: its first byte tells how many follow and between which bounds the next one is
(`Utf8.first_two`, `Utf8.first_three`, `Utf8.first_four`), and each byte that follows adds six bits
(`Utf8.decodeFrom_more`, `Utf8.decodeFrom_last`). The bounds exclude only what no character is
written as, so the bytes of a character are always within them.

Bytes that can be decoded end where a character ends, so what is put behind them is decoded by
itself (`Utf8.decode?_append`). Within no character there is a byte of ASCII, so a text that is
followed by ASCII ends in front of it (`Utf8.exists_decode?_of_append`).
-/

namespace WebMount.Utf8

theorem encode_append (s t : List Char) : encode (s ++ t) = encode s ++ encode t :=
  List.flatMap_append

theorem encode_cons (c : Char) (s : List Char) :
    encode (c :: s) = String.utf8EncodeChar c ++ encode s :=
  List.flatMap_cons

/-! ### First bytes -/

/-- A byte of ASCII is a whole character. -/
theorem first_one : ∀ n < 128, first (UInt8.ofNat n) = ([some (Char.ofNat n)], none) := by
  decide

theorem first_two : ∀ n < 32, 2 ≤ n →
    first (UInt8.ofNat (n + 192)) = ([], some ⟨n, 1, 0x80, 0xBF⟩) := by
  decide

/-- The byte behind `0xE0` is bounded because shorter characters are not written with three bytes,
and the one behind `0xED` because surrogates are no characters. -/
theorem first_three : ∀ n < 16, first (UInt8.ofNat (n + 224)) =
    ([], some ⟨n, 2, if n = 0 then 0xA0 else 0x80, if n = 13 then 0x9F else 0xBF⟩) := by
  decide

/-- The byte behind `0xF0` is bounded because shorter characters are not written with four bytes,
and the one behind `0xF4` by the greatest character. -/
theorem first_four : ∀ n < 5, first (UInt8.ofNat (n + 240)) =
    ([], some ⟨n, 3, if n = 0 then 0x90 else 0x80, if n = 4 then 0x8F else 0xBF⟩) := by
  decide

theorem decodeFrom_first {b : UInt8} {u : Unfinished} (h : first b = ([], some u))
    (bytes : Bytes) : decodeFrom none (b :: bytes) = decodeFrom (some u) bytes := by
  rw [decodeFrom, step, h]
  rfl

/-! ### The bytes that follow -/

section Tail

variable {bits : Nat} {least greatest : UInt8} {m : Nat}

private theorem toNat_tail (hm : m < 64) : (UInt8.ofNat (m + 128)).toNat % 64 = m := by
  rw [UInt8.toNat_ofNat']
  omega

/-- The last byte within the bounds completes the character. -/
theorem decodeFrom_last (hm : m < 64)
    (hbounds : least ≤ UInt8.ofNat (m + 128) ∧ UInt8.ofNat (m + 128) ≤ greatest) (bytes : Bytes) :
    decodeFrom (some ⟨bits, 1, least, greatest⟩) (UInt8.ofNat (m + 128) :: bytes) =
      some (Char.ofNat (bits * 64 + m)) :: decodeFrom none bytes := by
  rw [decodeFrom, step]
  dsimp only
  rw [if_pos hbounds, toNat_tail hm]
  rfl

/-- A byte within the bounds adds its six bits, and the next one is bounded no further. -/
theorem decodeFrom_more (missing : Nat) (hm : m < 64)
    (hbounds : least ≤ UInt8.ofNat (m + 128) ∧ UInt8.ofNat (m + 128) ≤ greatest) (bytes : Bytes) :
    decodeFrom (some ⟨bits, missing + 2, least, greatest⟩) (UInt8.ofNat (m + 128) :: bytes) =
      decodeFrom (some ⟨bits * 64 + m, missing + 1, 0x80, 0xBF⟩) bytes := by
  rw [decodeFrom, step]
  dsimp only
  rw [if_pos hbounds, toNat_tail hm]
  rfl

/-- A byte that follows is within the bounds that hold behind most bytes. -/
theorem tail_bounds : ∀ m < 64, 0x80 ≤ UInt8.ofNat (m + 128) ∧ UInt8.ofNat (m + 128) ≤ 0xBF := by
  decide

theorem second_bounds_three : ∀ n < 16, ∀ m < 64, (n = 0 → 32 ≤ m) → (n = 13 → m < 32) →
    (if n = 0 then 0xA0 else 0x80) ≤ UInt8.ofNat (m + 128) ∧
      UInt8.ofNat (m + 128) ≤ (if n = 13 then 0x9F else 0xBF) := by
  decide +kernel

theorem second_bounds_four : ∀ n < 5, ∀ m < 64, (n = 0 → 16 ≤ m) → (n = 4 → m < 16) →
    (if n = 0 then 0x90 else 0x80) ≤ UInt8.ofNat (m + 128) ∧
      UInt8.ofNat (m + 128) ≤ (if n = 4 then 0x8F else 0xBF) := by
  decide +kernel

end Tail

/-! ### Characters -/

/-- A character is no surrogate and not above the greatest character. -/
theorem toNat_bounds (c : Char) : c.toNat < 55296 ∨ 57343 < c.toNat ∧ c.toNat < 1114112 :=
  c.valid

/-- **The bytes of a character are read as the character.** -/
theorem decodeFrom_utf8EncodeChar (c : Char) (bytes : Bytes) :
    decodeFrom none (String.utf8EncodeChar c ++ bytes) = some c :: decodeFrom none bytes := by
  have hvalid := toNat_bounds c
  have hc : Char.ofNat c.toNat = c := Char.ofNat_toNat c
  have hval : c.val.toNat = c.toNat := rfl
  rw [String.utf8EncodeChar, hval]
  generalize c.toNat = v at hvalid hc
  have hlast : v % 64 < 64 := Nat.mod_lt _ (by decide)
  have hthird : v / 64 % 64 < 64 := Nat.mod_lt _ (by decide)
  -- one case for each number of bytes that a character can have
  split
  · next hone =>
    rw [List.singleton_append, decodeFrom, step, first_one v (by omega), hc]
    rfl
  split
  · next hone htwo =>
    have hbits : v / 64 % 32 * 64 + v % 64 = v := by omega
    have hfirst := first_two (v / 64 % 32) (by omega) (by omega)
    rw [List.cons_append, List.singleton_append, decodeFrom_first hfirst,
      decodeFrom_last hlast (tail_bounds _ hlast), hbits, hc]
  split
  · next hone htwo hthree =>
    have hn : v / 4096 % 16 < 16 := Nat.mod_lt _ (by decide)
    have hbits : (v / 4096 % 16 * 64 + v / 64 % 64) * 64 + v % 64 = v := by omega
    have hsecond := second_bounds_three _ hn _ hthird (by omega) (by omega)
    rw [List.cons_append, List.cons_append, List.singleton_append,
      decodeFrom_first (first_three _ hn), decodeFrom_more 0 hthird hsecond,
      decodeFrom_last hlast (tail_bounds _ hlast), hbits, hc]
  · next hone htwo hthree =>
    have hn : v / 262144 % 8 < 5 := by omega
    have hm : v / 4096 % 64 < 64 := Nat.mod_lt _ (by decide)
    have hbits : ((v / 262144 % 8 * 64 + v / 4096 % 64) * 64 + v / 64 % 64) * 64 + v % 64 = v := by
      omega
    have hsecond := second_bounds_four _ hn _ hm (by omega) (by omega)
    rw [List.cons_append, List.cons_append, List.cons_append, List.singleton_append,
      decodeFrom_first (first_four _ hn), decodeFrom_more 1 hm hsecond,
      decodeFrom_more 0 hthird (tail_bounds _ hthird),
      decodeFrom_last hlast (tail_bounds _ hlast), hbits, hc]

theorem decodeFrom_encode (s : List Char) : decodeFrom none (encode s) = s.map some := by
  induction s with
  | nil => rfl
  | cons c s ih => rw [encode_cons, decodeFrom_utf8EncodeChar, ih, List.map_cons]

/-- **The bytes of a text are read as the text.** -/
theorem decodeLossy_encode (s : List Char) : decodeLossy (encode s) = s := by
  rw [decodeLossy, decodeFrom_encode, List.map_map]
  exact List.map_id s

/-! ### Bytes that follow each other -/

/-- All characters are there exactly if they are those of a text. -/
theorem mapM_id_eq_some_iff {l : List (Option Char)} {s : List Char} :
    l.mapM id = some s ↔ l = s.map some := by
  induction l generalizing s with
  | nil => cases s <;> simp
  | cons c l ih =>
    simp only [List.mapM_cons, id, Option.bind_eq_bind, Option.bind_eq_some_iff, Option.pure_def,
      Option.some.injEq, ih]
    constructor
    · rintro ⟨c, rfl, rest, rfl, rfl⟩
      rfl
    · intro h
      obtain ⟨c, rest, rfl, rfl, rfl⟩ := List.map_eq_cons_iff.mp h.symm
      exact ⟨c, rfl, rest, rfl, rfl⟩

/-- Bytes are decoded as a text if nothing in them is undecodable. -/
theorem decode?_eq_some_iff {bytes : Bytes} {s : List Char} :
    decode? bytes = some s ↔ decodeFrom none bytes = s.map some :=
  mapM_id_eq_some_iff

/-- Nothing in the bytes of a text is undecodable. -/
theorem decode?_encode (s : List Char) : decode? (encode s) = some s :=
  decode?_eq_some_iff.mpr (decodeFrom_encode s)

theorem decodeFrom_cons (state : Option Unfinished) (b : UInt8) (bytes : Bytes) :
    decodeFrom state (b :: bytes) = (step state b).1 ++ decodeFrom (step state b).2 bytes :=
  rfl

/-- No stretch of a text is undecodable. -/
theorem map_some_ne_none_cons {s : List Char} {l : List (Option Char)} :
    none :: l ≠ s.map some := by
  intro h
  obtain ⟨c, -, -, hc, -⟩ := List.map_eq_cons_iff.mp h.symm
  exact absurd hc (by simp)

/-- Decoded bytes leave nothing unfinished. -/
theorem decodeFrom_append {state : Option Unfinished} {a : Bytes} {s : List Char}
    (h : decodeFrom state a = s.map some) (b : Bytes) :
    decodeFrom state (a ++ b) = s.map some ++ decodeFrom none b := by
  induction a generalizing state s with
  | nil =>
    cases state with
    | none => rw [← h]; rfl
    | some u => exact absurd h map_some_ne_none_cons
  | cons x a ih =>
    rw [decodeFrom_cons] at h
    obtain ⟨s, t, rfl, hdone, hrest⟩ := List.map_eq_append_iff.mp h.symm
    rw [List.cons_append, decodeFrom_cons, ih hrest.symm, ← hdone, List.map_append,
      List.append_assoc]

/-- **What stands behind decoded bytes is decoded by itself.** -/
theorem decode?_append {a : Bytes} {s : List Char} (h : decode? a = some s) (b : Bytes) :
    decode? (a ++ b) = (decode? b).map (s ++ ·) := by
  have happend := decodeFrom_append (decode?_eq_some_iff.mp h) b
  refine Option.ext fun t => ?_
  rw [decode?_eq_some_iff, happend, Option.map_eq_some_iff]
  constructor
  · intro ht
    obtain ⟨s', t, rfl, hs, hb⟩ := List.map_eq_append_iff.mp ht.symm
    obtain rfl : s' = s := (List.map_inj_right fun _ _ => Option.some.inj).mp hs
    exact ⟨t, decode?_eq_some_iff.mpr hb.symm, rfl⟩
  · rintro ⟨t, ht, rfl⟩
    rw [List.map_append, decode?_eq_some_iff.mp ht]

/-- No byte of ASCII can go on with a character that a first byte begins. -/
theorem least_of_first : ∀ n < 256, ∀ u ∈ (first (UInt8.ofNat n)).2, 0x80 ≤ u.least := by
  decide +kernel

theorem least_of_step {state : Option Unfinished} {b : UInt8} :
    ∀ u ∈ (step state b).2, 0x80 ≤ u.least := by
  have hfirst := least_of_first b.toNat b.toNat_lt
  rw [UInt8.ofNat_toNat] at hfirst
  rw [step.eq_def]
  split
  · exact hfirst
  · split
    · dsimp only
      split
      · simp
      · simp
      · rintro u hu
        obtain rfl := Option.some.inj hu
        exact UInt8.le_refl _
    · exact hfirst

/-- A text ends in front of bytes of ASCII. -/
theorem exists_decodeFrom_of_append {state : Option Unfinished} {a b : Bytes} {t : List Char}
    (hstate : ∀ u ∈ state, 0x80 ≤ u.least) (hb : ∀ x ∈ b, x < 0x80)
    (h : decodeFrom state (a ++ b) = t.map some) :
    ∃ s : List Char, decodeFrom state a = s.map some := by
  induction a generalizing state t with
  | nil =>
    cases state with
    | none => exact ⟨[], rfl⟩
    | some u =>
      cases b with
      | nil => exact ⟨t, h⟩
      | cons x b =>
        -- the byte is not within the bounds, so the character is given up
        have hbounds : ¬(u.least ≤ x ∧ x ≤ u.greatest) := fun hle =>
          absurd (UInt8.le_trans (hstate u rfl) hle.1)
            (UInt8.not_le.mpr (hb x List.mem_cons_self))
        rw [List.nil_append, decodeFrom_cons, step, if_neg hbounds] at h
        exact absurd h map_some_ne_none_cons
  | cons x a ih =>
    rw [List.cons_append, decodeFrom_cons] at h
    obtain ⟨t, t', rfl, hdone, hrest⟩ := List.map_eq_append_iff.mp h.symm
    obtain ⟨s, hs⟩ := ih least_of_step hrest.symm
    exact ⟨t ++ s, by rw [decodeFrom_cons, hs, ← hdone, List.map_append]⟩

/-- **What stands in front of bytes of ASCII is decoded by itself.** -/
theorem exists_decode?_of_append {a b : Bytes} {t : List Char} (hb : ∀ x ∈ b, x < 0x80)
    (h : decode? (a ++ b) = some t) : ∃ s, decode? a = some s := by
  obtain ⟨s, hs⟩ := exists_decodeFrom_of_append (fun u hu => absurd hu (by simp)) hb
    (decode?_eq_some_iff.mp h)
  exact ⟨s, decode?_eq_some_iff.mpr hs⟩

/-- Bytes of ASCII are characters. -/
theorem decode?_ascii {b : Bytes} (h : ∀ x ∈ b, x < 0x80) :
    decode? b = some (b.map fun x => Char.ofNat x.toNat) := by
  rw [decode?_eq_some_iff, List.map_map]
  induction b with
  | nil => rfl
  | cons x b ih =>
    have hfirst := first_one x.toNat (h x List.mem_cons_self)
    rw [UInt8.ofNat_toNat] at hfirst
    rw [decodeFrom_cons, step, hfirst, ih fun y hy => h y (List.mem_cons_of_mem x hy)]
    rfl

end WebMount.Utf8
