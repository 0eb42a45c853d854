import WebMount.Proofs.Text.Percent
import WebMount.Proofs.Text.Slice
import WebMount.UrlEncoded

/-!
# Written pairs are read back

Pairs of names and values that are written out are read as the same pairs (`decode_encode`), for
all texts. Each byte of a name or a value is written as itself, as a plus or as an escape, none of
which holds a separator (`not_mem_written`), and is read back by itself
(`decode_encodeByte_append`); so a written form is cut exactly where it was put together, and every
part is decoded to its bytes and these to the text (`decodePart_written`).
-/

namespace WebMount

namespace UrlEncoded

open WebMount.Text

/-! ### One byte -/

/-- A byte of a name or a value as it is written. -/
def encodeByte (b : UInt8) : List Char :=
  if b = 32 then ['+'] else Percent.encode isPlain [b]

/-- A byte with a plus read as a space. -/
def spaced (b : UInt8) : UInt8 :=
  if b = 43 then 32 else b

/-- A plain byte is written as itself, and is neither a plus nor a percent sign. -/
private theorem encode_plain : ∀ n < 256, isPlain (UInt8.ofNat n) = true →
    Utf8.encode (encodeByte (UInt8.ofNat n)) = [UInt8.ofNat n] ∧
      spaced (UInt8.ofNat n) = UInt8.ofNat n ∧ UInt8.ofNat n ≠ 37 := by
  decide +kernel

private theorem spaced_digitByte :
    ∀ n < 16, spaced (Percent.digitByte n) = Percent.digitByte n := by
  decide

/-- No separator stands in what is written for a byte. -/
private theorem separator_not_mem : ∀ n < 256,
    (Utf8.encode (encodeByte (UInt8.ofNat n))).all (fun x => x != 38 && x != 61) = true := by
  decide +kernel

/-- **What is written for a byte is read as the byte.** -/
theorem decode_encodeByte_append (b : UInt8) (bytes : Bytes) :
    Percent.decode ((Utf8.encode (encodeByte b)).map spaced ++ bytes) =
      b :: Percent.decode bytes := by
  have hbyte : UInt8.ofNat b.toNat = b := UInt8.ofNat_toNat
  by_cases hspace : b = 32
  · subst hspace
    exact Percent.decode_cons_of_ne (by decide) bytes
  · cases hplain : isPlain b with
    | true =>
      have hself := encode_plain b.toNat b.toNat_lt (by rwa [hbyte])
      rw [hbyte] at hself
      obtain ⟨hencode, hspaced, hpercent⟩ := hself
      rw [hencode, List.map_singleton, hspaced, List.singleton_append,
        Percent.decode_cons_of_ne hpercent]
    | false =>
      have hlt : b.toNat < 256 := b.toNat_lt
      have hwritten : encodeByte b = Percent.escape b := by
        simp [encodeByte, hspace, Percent.encode, hplain]
      -- no byte of an escape is a plus
      have hspaced : (Utf8.encode (Percent.escape b)).map spaced =
          Utf8.encode (Percent.escape b) := by
        rw [Percent.utf8_escape, List.map_cons, List.map_cons, List.map_singleton,
          spaced_digitByte _ (by omega), spaced_digitByte _ (by omega)]
        rfl
      rw [hwritten, hspaced, Percent.decode_escape_append]

/-! ### Names and values -/

/-- The bytes of a name or a value as it is written. -/
def written (text : String) : Bytes :=
  Utf8.encode (encodePart text)

theorem written_eq (text : String) :
    written text = (Utf8.ofString text).flatMap fun b => Utf8.encode (encodeByte b) :=
  List.flatMap_assoc

/-- No separator stands in a written name or value. -/
theorem not_mem_written (text : String) : 38 ∉ written text ∧ 61 ∉ written text := by
  have hne : ∀ x ∈ written text, x ≠ 38 ∧ x ≠ 61 := by
    intro x hx
    rw [written_eq, List.mem_flatMap] at hx
    obtain ⟨b, -, hx⟩ := hx
    have hbyte : UInt8.ofNat b.toNat = b := UInt8.ofNat_toNat
    have hfree := List.all_eq_true.mp (separator_not_mem b.toNat b.toNat_lt) x (by rwa [hbyte])
    simpa using hfree
  exact ⟨fun h => (hne 38 h).1 rfl, fun h => (hne 61 h).2 rfl⟩

/-- **A written name or value is read as the text.** -/
theorem decodePart_written (text : String) : decodePart (written text) = text := by
  have hbytes : ∀ bytes : Bytes, Percent.decode
      ((bytes.flatMap fun b => Utf8.encode (encodeByte b)).map spaced) = bytes := by
    intro bytes
    induction bytes with
    | nil => rfl
    | cons b bytes ih =>
      rw [List.flatMap_cons, List.map_append, decode_encodeByte_append, ih]
  have hdecode : decodePart (written text) =
      String.ofList (Utf8.decodeLossy (Percent.decode ((written text).map spaced))) := rfl
  rw [hdecode, written_eq, hbytes, Utf8.ofString, Utf8.decodeLossy_encode, String.ofList_toList]

/-! ### Pairs -/

/-- The bytes of a pair as it is written. -/
def writtenPair (pair : String × String) : Bytes :=
  written pair.1 ++ 61 :: written pair.2

theorem decodePiece_writtenPair (pair : String × String) :
    decodePiece (writtenPair pair) = pair := by
  rw [decodePiece, writtenPair, splitFirst?_append _ (not_mem_written pair.1).2]
  exact Prod.ext (decodePart_written pair.1) (decodePart_written pair.2)

theorem not_mem_writtenPair (pair : String × String) : 38 ∉ writtenPair pair := by
  rw [writtenPair, List.mem_append, List.mem_cons]
  rintro (hname | heq | hvalue)
  · exact (not_mem_written pair.1).1 hname
  · exact absurd heq (by decide)
  · exact (not_mem_written pair.2).1 hvalue

/-- The bytes of written pairs are those of each, with the separator between them. -/
theorem ofString_encode (pairs : List (String × String)) :
    Utf8.ofString (encode pairs) = [38].intercalate (pairs.map writtenPair) := by
  have hjoin : ∀ pieces : List (List Char), Utf8.encode (['&'].intercalate pieces) =
      [38].intercalate (pieces.map Utf8.encode) := by
    intro pieces
    induction pieces with
    | nil => rfl
    | cons piece pieces ih =>
      cases pieces with
      | nil => rw [List.intercalate_singleton, List.map_singleton, List.intercalate_singleton]
      | cons next pieces =>
        rw [List.map_cons] at ih
        rw [List.intercalate_cons_cons, List.map_cons, List.map_cons, List.intercalate_cons_cons,
          Utf8.encode_append, Utf8.encode_append, ih]
        rfl
  have hpair : ∀ pair : String × String,
      Utf8.encode (encodePart pair.1 ++ '=' :: encodePart pair.2) = writtenPair pair := by
    intro pair
    rw [Utf8.encode_append, Utf8.encode_cons]
    rfl
  rw [encode, Utf8.ofString, String.toList_ofList, hjoin, List.map_map]
  refine congrArg _ (List.map_congr_left fun pair _ => ?_)
  rw [Function.comp_apply, hpair]

/-- **Written pairs are read as the pairs.** -/
theorem decode_encode (pairs : List (String × String)) : decode (encode pairs) = pairs := by
  cases pairs with
  | nil => rfl
  | cons pair pairs =>
    have hne : (pair :: pairs).map writtenPair ≠ [] := by simp
    have hkeep : ((pair :: pairs).map writtenPair).filter (· ≠ []) =
        (pair :: pairs).map writtenPair := by
      refine List.filter_eq_self.mpr (List.forall_mem_map.mpr fun p _ => ?_)
      simp [writtenPair]
    rw [decode, ofString_encode, splitAll_intercalate hne
      (List.forall_mem_map.mpr fun p _ => not_mem_writtenPair p), hkeep, List.map_map]
    have hread : ∀ p ∈ pair :: pairs, (decodePiece ∘ writtenPair) p = id p := by
      intro p _
      rw [Function.comp_apply, decodePiece_writtenPair, id]
    calc (pair :: pairs).map (decodePiece ∘ writtenPair)
        = (pair :: pairs).map id := List.map_congr_left hread
      _ = pair :: pairs := List.map_id _

end UrlEncoded

end WebMount
