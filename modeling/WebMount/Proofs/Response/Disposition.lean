import WebMount.Proofs.Text.Percent
import WebMount.Proofs.Text.Reader
import WebMount.Response.Command
import WebMount.Response.Parameters

/-!
# File names survive a content disposition

The value of a content disposition consists of printable characters (`printable_headerValue`), so it
always is the value of a field. Whatever the file name is, the value is read as the kind of
presentation and one or two parameters, and the file name cannot end the quotes that it stands
between or begin a parameter: a character between quotes is read by itself, and no character of a
percent-encoded name ends a token. So the first parameter is the name with an underscore for each
character that is not printable, and the second one, if there is one, gives the bytes of the name
(`headerValue_reads`).
-/

namespace WebMount

open WebMount.Text WebMount.Text.Reader

namespace ParameterizedValue

/-! ### Characters -/

/-- A printable character of ASCII. -/
def IsPrintable (c : Char) : Prop :=
  32 ≤ c.toNat ∧ c.toNat ≤ 126

instance (c : Char) : Decidable (IsPrintable c) :=
  inferInstanceAs (Decidable (_ ∧ _))

/-- Printable characters are told by running through the text. -/
theorem forall_isPrintable {s : List Char} (h : (s.all fun c => decide (IsPrintable c)) = true) :
    ∀ c ∈ s, IsPrintable c :=
  fun c hc => of_decide_eq_true (List.all_eq_true.mp h c hc)

theorem isPrintable_of_isAlphanum {c : Char} (h : c.isAlphanum = true) : IsPrintable c := by
  have hbetween : ∀ {low high : UInt32}, c.val ≥ low → c.val ≤ high → 32 ≤ low.toNat →
      high.toNat ≤ 126 → IsPrintable c := fun hlow hhigh hfirst hlast =>
    ⟨Nat.le_trans hfirst (UInt32.le_iff_toNat_le.mp hlow),
      Nat.le_trans (UInt32.le_iff_toNat_le.mp hhigh) hlast⟩
  change (decide (c.val ≥ 65 ∧ c.val ≤ 90) || (decide (c.val ≥ 97) && decide (c.val ≤ 122)) ||
    (decide (c.val ≥ 48) && decide (c.val ≤ 57))) = true at h
  simp only [Bool.or_eq_true, Bool.and_eq_true, decide_eq_true_eq] at h
  obtain (⟨hlow, hhigh⟩ | ⟨hlow, hhigh⟩) | ⟨hlow, hhigh⟩ := h <;>
    exact hbetween hlow hhigh (by decide) (by decide)

theorem isPrintable_of_isTokenChar {c : Char} (h : isTokenChar c = true) : IsPrintable c := by
  rw [isTokenChar, Bool.or_eq_true] at h
  rcases h with h | h
  · exact isPrintable_of_isAlphanum h
  · exact forall_isPrintable (by decide) c (List.contains_iff_mem.mp h)

theorem isTokenChar_of_isAttributeChar {c : Char} (h : isAttributeChar c = true) :
    isTokenChar c = true := by
  rw [isAttributeChar, Bool.or_eq_true] at h
  rcases h with h | h
  · rw [isTokenChar, h, Bool.true_or]
  · have hall : "!#$&+-.^_`|~".toList.all isTokenChar = true := by decide
    exact List.all_eq_true.mp hall c (List.contains_iff_mem.mp h)

/-- A digit of an escape can stand in a token. -/
theorem isTokenChar_of_hexDigit {c : Char} (h : c.isDigit = true ∨ 'A' ≤ c ∧ c ≤ 'F') :
    isTokenChar c = true := by
  have halpha : c.isAlphanum = true := by
    change ((c.isUpper || c.isLower) || c.isDigit) = true
    rcases h with h | ⟨hlow, hhigh⟩
    · rw [h, Bool.or_true]
    · have hupper : c.isUpper = true :=
        decide_eq_true ⟨hlow, UInt32.le_trans hhigh (by decide)⟩
      rw [hupper, Bool.true_or, Bool.true_or]
  rw [isTokenChar, halpha, Bool.true_or]

theorem isTokenChar_of_mem_encoded {s : List Char} (h : Percent.Encoded isAttributeChar s) :
    ∀ c ∈ s, isTokenChar c = true := by
  induction h with
  | nil => exact fun c hc => absurd hc List.not_mem_nil
  | plain hplain _ ih =>
    rw [List.forall_mem_cons]
    exact ⟨isTokenChar_of_isAttributeChar hplain, ih⟩
  | escape hhigh hlow _ ih =>
    rw [List.forall_mem_cons, List.forall_mem_cons, List.forall_mem_cons]
    exact ⟨by decide, isTokenChar_of_hexDigit hhigh, isTokenChar_of_hexDigit hlow, ih⟩

/-! ### Readers -/

/-- A printable character is read as it is written between quotes. -/
theorem quotedChar_takes {c : Char} (h : IsPrintable c) :
    quotedChar.Takes (Disposition.quotedChar c) c := by
  intro rest
  rw [Disposition.quotedChar]
  split
  · next hescaped =>
    rcases hescaped with rfl | rfl <;> rfl
  · next hplain =>
    obtain ⟨hquote, hslash⟩ := not_or.mp hplain
    obtain ⟨hlow, hhigh⟩ := h
    have hself : isPlainQuoted c = true := by
      simp [isPlainQuoted, isQuotable, hquote, hslash, hlow, Nat.ne_of_lt (Nat.lt_succ_of_le hhigh)]
    rw [if_pos ⟨hlow, Nat.lt_succ_of_le hhigh⟩]
    exact run_orElse_of_some (satisfy_takes hself rest)

/-- **Printable characters between quotes are read one by one**, up to the quote that ends them. -/
theorem quoted_takes {text : List Char} (h : ∀ c ∈ text, IsPrintable c) :
    quoted.Takes ('"' :: text.flatMap Disposition.quotedChar ++ ['"']) text := by
  have hstop : ∀ rest, quotedChar.run (['"'] ++ rest) = none := fun rest => rfl
  have hclose : (do char '"'; return text : Reader (List Char)).Takes ['"'] text :=
    (char_takes '"').bind (Takes.pure text)
  exact (char_takes '"').bind (Takes.repeated_bind (fun c hc => quotedChar_takes (h c hc)) hstop
    hclose)

/-- A token ends in front of a character that cannot stand in one. -/
theorem run_token {text rest : List Char} (hne : text ≠ [])
    (htext : ∀ c ∈ text, isTokenChar c = true) (hrest : ∀ c ∈ rest.head?, isTokenChar c = false) :
    token.run (text ++ rest) = some (text, rest) :=
  run_many1 hne htext hrest

/-- A parameter is its name and its value. -/
theorem run_parameter {name text value rest : List Char} (hne : name ≠ [])
    (hname : ∀ c ∈ name, isTokenChar c = true)
    (hvalue : (quoted <|> token).run (text ++ rest) = some (value, rest)) :
    parameter.run (';' :: ' ' :: (name ++ '=' :: (text ++ rest))) = some ((name, value), rest) := by
  have hspace : ∀ c ∈ (name ++ '=' :: (text ++ rest)).head?, isSpace c = false := by
    intro c hc
    obtain ⟨first, name, rfl⟩ := List.exists_cons_of_ne_nil hne
    obtain rfl := Option.some.inj hc
    have htoken := hname first List.mem_cons_self
    rw [isSpace, Bool.or_eq_false_iff, beq_eq_false_iff_ne, beq_eq_false_iff_ne]
    constructor <;> (rintro rfl; exact absurd htoken (by decide))
  generalize hrest : name ++ '=' :: (text ++ rest) = named at hspace
  have hfront : (many isSpace).run (';' :: ' ' :: named) = some ([], ';' :: ' ' :: named) :=
    @run_many isSpace [] _ (by simp) (by simp [isSpace])
  have hblank : (many isSpace).run (' ' :: named) = some ([' '], named) :=
    @run_many isSpace [' '] _ (by simp [isSpace]) hspace
  have htoken : token.run named = some (name, '=' :: (text ++ rest)) := by
    rw [← hrest]
    exact run_token hne hname (by simp; decide)
  rw [parameter, run_bind_of hfront, run_bind_of (run_char ';' _), run_bind_of hblank,
    run_bind_of htoken, run_bind_of (run_char '=' _), run_bind_of hvalue]
  rfl

end ParameterizedValue

namespace Disposition

open WebMount.ParameterizedValue

/-! ### The value -/

/-- A character of a name as it is shown between quotes, an underscore if it cannot be. -/
def shown (c : Char) : Char :=
  if IsPrintable c then c else '_'

theorem isPrintable_shown (c : Char) : IsPrintable (shown c) := by
  rw [shown]
  split
  · next h => exact h
  · decide

theorem quotedChar_shown (c : Char) : quotedChar (shown c) = quotedChar c := by
  rw [shown]
  split
  · rfl
  · next h =>
    have hne : ¬(c = '"' ∨ c = '\\') := by
      rintro (rfl | rfl) <;> exact h (by decide)
    have hrange : ¬(32 ≤ c.toNat ∧ c.toNat < 127) := fun hc => h ⟨hc.1, Nat.le_of_lt_succ hc.2⟩
    rw [quotedChar, quotedChar, if_neg hne, if_neg hrange]
    rfl

/-- The percent-encoded bytes of a name, if it has characters that are not ASCII. -/
def encodedName? (name : String) : Option (List Char) :=
  if name.toList.all fun c => decide (c.toNat < 128) then none
  else some (Percent.encode isPlain (Utf8.ofString name))

/-- The text of a parameter behind a semicolon and a space. -/
def parameterText (name value : List Char) : List Char :=
  ';' :: ' ' :: (name ++ '=' :: value)

/-- The text between quotes that gives the name. -/
def quotedName (name : String) : List Char :=
  '"' :: (name.toList.map shown).flatMap quotedChar ++ ['"']

/-- The text of the second parameter, if there is one. -/
def extendedText (name : String) : List Char :=
  match encodedName? name with
  | none => []
  | some encoded => parameterText "filename*".toList ("UTF-8''".toList ++ encoded)

theorem toList_headerValue (word : String) {name : String} (hname : name ≠ "") :
    (headerValue word (some name)).toList =
      word.toList ++ parameterText "filename".toList (quotedName name ++ extendedText name) := by
  have hquoted : (name.toList.map shown).flatMap quotedChar = name.toList.flatMap quotedChar := by
    rw [List.flatMap_map]
    exact congrArg (List.flatMap · name.toList) (funext quotedChar_shown)
  have hopen : "; filename=\"".toList = ';' :: ' ' :: ("filename".toList ++ ['=', '"']) := by decide
  have hextended : (if name.toList.all fun c => decide (c.toNat < 128) then []
      else "; filename*=UTF-8''".toList ++ Percent.encode isPlain (Utf8.ofString name)) =
      extendedText name := by
    rw [extendedText, encodedName?]
    split
    · rfl
    · dsimp only [parameterText]
      rfl
  rw [headerValue]
  · simp only [String.toList_append, String.toList_ofList, hextended, hopen, quotedName, hquoted,
      parameterText]
    simp
  · exact hname

/-! ### Reading the value -/

/-- A byte that stands for itself is a character of ASCII, and not the percent sign. -/
private theorem isPlain_spec : ∀ n < 256, isPlain (UInt8.ofNat n) = true →
    isAttributeChar (Char.ofNat n) = true ∧ n < 128 ∧ UInt8.ofNat n ≠ 37 := by
  decide +kernel

theorem isAttributeChar_of_isPlain {b : UInt8} (h : isPlain b = true) :
    isAttributeChar (Char.ofNat b.toNat) = true ∧ b.toNat < 128 ∧ b ≠ 37 := by
  have hspec := isPlain_spec b.toNat b.toNat_lt (by rwa [UInt8.ofNat_toNat])
  rwa [UInt8.ofNat_toNat] at hspec

/-- **The second parameter gives the bytes of the name.** -/
theorem encodedName?_spec {name : String} {encoded : List Char}
    (h : encodedName? name = some encoded) :
    Percent.Encoded isAttributeChar encoded ∧
      Percent.decode (Utf8.encode encoded) = Utf8.ofString name := by
  rw [encodedName?] at h
  split at h
  · exact absurd h (by simp)
  · obtain rfl := Option.some.inj h
    exact ⟨Percent.encoded_encode (fun b hb => (isAttributeChar_of_isPlain hb).1) _,
      Percent.decode_encode (fun b hb => (isAttributeChar_of_isPlain hb).2) _⟩

theorem isSome_encodedName?_iff (name : String) :
    (encodedName? name).isSome = true ↔ ∃ c ∈ name.toList, 128 ≤ c.toNat := by
  rw [encodedName?]
  split
  · next h =>
    refine iff_of_false (by simp) ?_
    rintro ⟨c, hc, hhigh⟩
    have hlow := of_decide_eq_true (List.all_eq_true.mp h c hc)
    omega
  · next h =>
    refine iff_of_true rfl ?_
    simpa using h

theorem run_parameter_quotedName (name : String) (rest : List Char) :
    parameter.run (parameterText "filename".toList (quotedName name ++ rest)) =
      some (("filename".toList, name.toList.map shown), rest) := by
  have hprintable : ∀ c ∈ name.toList.map shown, IsPrintable c :=
    List.forall_mem_map.mpr fun c _ => isPrintable_shown c
  exact run_parameter (by decide) (List.all_eq_true.mp (by decide))
    (run_orElse_of_some (quoted_takes hprintable rest))

theorem run_parameter_encoded {encoded : List Char}
    (h : Percent.Encoded isAttributeChar encoded) :
    parameter.run (parameterText "filename*".toList ("UTF-8''".toList ++ encoded)) =
      some (("filename*".toList, "UTF-8''".toList ++ encoded), []) := by
  have htoken : ∀ c ∈ "UTF-8''".toList ++ encoded, isTokenChar c = true := by
    rw [List.forall_mem_append]
    exact ⟨List.all_eq_true.mp (by decide), isTokenChar_of_mem_encoded h⟩
  have hvalue := run_token (by simp) htoken (fun c hc => absurd hc (by simp) : ∀ c ∈ [].head?, _)
  have hparameter := run_parameter (by decide : "filename*".toList ≠ [])
    (List.all_eq_true.mp (by decide)) ((run_orElse_of_none rfl).trans hvalue)
  rwa [List.append_nil] at hparameter

/-- **The parameters are the name as it can be shown and, if there are other characters in it than
those of ASCII, its bytes.** -/
theorem read?_headerValue (kind : Disposition) {name : String} (hname : name ≠ "") :
    read? (headerValue kind.word (some name)) = some ⟨kind.word.toList,
      ("filename".toList, name.toList.map shown) :: (encodedName? name).toList.map fun encoded =>
        ("filename*".toList, "UTF-8''".toList ++ encoded)⟩ := by
  have hword : ∀ rest, token.run (kind.word.toList ++ ';' :: rest) =
      some (kind.word.toList, ';' :: rest) := fun rest =>
    run_token (by cases kind <;> decide) (List.all_eq_true.mp (by cases kind <;> decide))
      (by simp; decide)
  have hfirst := run_parameter_quotedName name (extendedText name)
  have hparameters : (repeated parameter).run
      (parameterText "filename".toList (quotedName name ++ extendedText name)) =
      some (("filename".toList, name.toList.map shown) ::
        (encodedName? name).toList.map fun encoded =>
          ("filename*".toList, "UTF-8''".toList ++ encoded), []) := by
    change some (takeAll parameter (_ :: ' ' :: _) _ []) = _
    rw [takeAll_cons hfirst, extendedText]
    cases h : encodedName? name with
    | none => rw [takeAll_of_none rfl]; rfl
    | some encoded =>
      rw [takeAll_cons (run_parameter_encoded (encodedName?_spec h).1), takeAll_of_none rfl]
      rfl
  rw [read?, toList_headerValue kind.word hname, Reader.whole, reader, parameterText,
    run_bind_of (hword _)]
  rw [parameterText] at hparameters
  rw [run_bind_of hparameters]
  rfl

/-- **A name without control characters, or with other characters than those of ASCII, is given to
the client as it is.** -/
theorem fileName?_parameters {name : String} {word : List Char}
    (h : (∀ c ∈ name.toList, IsPrintable c) ∨ ∃ c ∈ name.toList, 128 ≤ c.toNat) :
    fileName? ⟨word, ("filename".toList, name.toList.map shown) ::
      (encodedName? name).toList.map fun encoded =>
        ("filename*".toList, "UTF-8''".toList ++ encoded)⟩ = some name := by
  have hskip : ∀ l : List (List Char × List Char),
      (("filename".toList, name.toList.map shown) :: l).lookup "filename*".toList =
        l.lookup "filename*".toList := fun l => rfl
  rw [← isSome_encodedName?_iff] at h
  rw [fileName?, hskip]
  cases hencoded : encodedName? name with
  | none =>
    have hprintable := h.resolve_right (by simp [hencoded])
    have hshown : name.toList.map shown = name.toList :=
      (List.map_congr_left fun c hc => if_pos (hprintable c hc)).trans (List.map_id name.toList)
    change some (String.ofList (name.toList.map shown)) = some name
    rw [hshown, String.ofList_toList]
  | some encoded =>
    have hbytes := (encodedName?_spec hencoded).2
    change extendedText? ("UTF-8''".toList ++ encoded) = some name
    rw [extendedText?, dropStart?_append]
    change (Utf8.decode? (Percent.decode (Utf8.encode encoded))).bind (some ∘ String.ofList) = _
    rw [hbytes, Utf8.ofString, Utf8.decode?_encode, Option.bind_some, Function.comp_apply,
      String.ofList_toList]

/-! ### Every character of the value -/

theorem isPrintable_quotedChar {c : Char} (h : IsPrintable c) :
    ∀ d ∈ quotedChar c, IsPrintable d := by
  rw [quotedChar]
  split
  · rw [List.forall_mem_cons, List.forall_mem_singleton]
    exact ⟨by decide, h⟩
  · split
    · rwa [List.forall_mem_singleton]
    · rw [List.forall_mem_singleton]
      decide

theorem isPrintable_extendedText (name : String) : ∀ c ∈ extendedText name, IsPrintable c := by
  rw [extendedText]
  split
  · exact fun c hc => absurd hc List.not_mem_nil
  · next encoded h =>
    rw [parameterText, List.forall_mem_cons, List.forall_mem_cons, List.forall_mem_append,
      List.forall_mem_cons, List.forall_mem_append]
    have htoken := isTokenChar_of_mem_encoded (encodedName?_spec h).1
    exact ⟨by decide, by decide, forall_isPrintable (by decide), by decide,
      forall_isPrintable (by decide), fun c hc => isPrintable_of_isTokenChar (htoken c hc)⟩

theorem isPrintable_quotedName (name : String) : ∀ c ∈ quotedName name, IsPrintable c := by
  rw [quotedName, List.forall_mem_append, List.forall_mem_cons]
  refine ⟨⟨by decide, fun c hc => ?_⟩, forall_isPrintable (by decide)⟩
  obtain ⟨d, hd, hc⟩ := List.mem_flatMap.mp hc
  obtain ⟨e, -, rfl⟩ := List.mem_map.mp hd
  exact isPrintable_quotedChar (isPrintable_shown e) c hc

/-- **The value consists of printable characters of ASCII**, whatever the name is. -/
theorem printable_headerValue (kind : Disposition) (fileName : Option String) :
    ∀ c ∈ (headerValue kind.word fileName).toList, IsPrintable c := by
  have hword : ∀ c ∈ kind.word.toList, IsPrintable c :=
    forall_isPrintable (by cases kind <;> decide)
  cases fileName with
  | none => exact hword
  | some name =>
    by_cases hname : name = ""
    · rw [hname]
      exact hword
    · rw [toList_headerValue kind.word hname, parameterText, List.forall_mem_append,
        List.forall_mem_cons, List.forall_mem_cons, List.forall_mem_append, List.forall_mem_cons,
        List.forall_mem_append]
      exact ⟨hword, by decide, by decide, forall_isPrintable (by decide), by decide,
        isPrintable_quotedName name, isPrintable_extendedText name⟩

/-- The value is the word for the kind alone if there is no name to give. -/
theorem headerValue_eq_word_iff (kind : Disposition) (fileName : Option String) :
    headerValue kind.word fileName = kind.word ↔ fileName.getD "" = "" := by
  cases fileName with
  | none => exact iff_of_true rfl rfl
  | some name =>
    by_cases hname : name = ""
    · rw [hname]
      exact iff_of_true rfl rfl
    · refine iff_of_false (fun h => ?_) hname
      have hlist := congrArg String.toList h
      rw [toList_headerValue kind.word hname, List.append_right_eq_self] at hlist
      exact absurd hlist (by simp [parameterText])

end Disposition

/-- Printable characters are a value of a field. -/
theorem Headers.isValue_of_isPrintable {value : String}
    (h : ∀ c ∈ value.toList, ParameterizedValue.IsPrintable c) : isValue value = true := by
  rw [isValue, List.all_eq_true]
  intro c hc
  obtain ⟨hlow, hhigh⟩ := h c hc
  simp [hlow, Nat.ne_of_lt (Nat.lt_succ_of_le hhigh)]

/-- **The presentation of a body is the value of a field under every file name.** -/
theorem Headers.isValue_disposition (kind : Disposition) (fileName : Option String) :
    isValue (Disposition.headerValue kind.word fileName) = true :=
  isValue_of_isPrintable (Disposition.printable_headerValue kind fileName)

open ParameterizedValue in
/-- **A file name cannot break the value that gives it, and is carried by it.** The field is always
set. Its value says nothing of a name if there is none. Otherwise it is read as two parameters at
most: the name as it can be shown, and its bytes if some of its characters are not of ASCII. Unless
a name of ASCII has control characters, the client takes it as it is. -/
theorem Disposition.headerValue_reads (kind : Disposition) (fileName : Option String) :
    let value := headerValue kind.word fileName
    (∀ c ∈ value.toList, 32 ≤ c.toNat ∧ c.toNat ≤ 126) ∧
    (Response.Command.disposition kind fileName).ops =
      .ok [.header "content-disposition" value] ∧
    (value = kind.word ↔ fileName.getD "" = "") ∧
    ∀ name ∈ fileName, name ≠ "" → ∃ (encoded? : Option (List Char)) (v : ParameterizedValue),
      read? value = some v ∧ v.word = kind.word.toList ∧
      v.parameters = ("filename".toList,
          name.toList.map fun c => if 32 ≤ c.toNat ∧ c.toNat ≤ 126 then c else '_') ::
        encoded?.toList.map (fun encoded => ("filename*".toList, "UTF-8''".toList ++ encoded)) ∧
      (encoded?.isSome = true ↔ ∃ c ∈ name.toList, 128 ≤ c.toNat) ∧
      (∀ encoded ∈ encoded?, Percent.Encoded isAttributeChar encoded ∧
        Percent.decode (Utf8.encode encoded) = Utf8.ofString name) ∧
      ((∀ c ∈ name.toList, 32 ≤ c.toNat ∧ c.toNat ≤ 126) ∨ (∃ c ∈ name.toList, 128 ≤ c.toNat) →
        v.fileName? = some name) := by
  refine ⟨printable_headerValue kind fileName, ?_, headerValue_eq_word_iff kind fileName, ?_⟩
  · rw [Response.Command.ops, Response.textHeader,
      if_pos (Headers.isValue_disposition kind fileName)]
  · rintro name rfl hname
    exact ⟨encodedName? name, _, read?_headerValue kind hname, rfl, rfl,
      isSome_encodedName?_iff name, fun _ => encodedName?_spec, fileName?_parameters⟩

/-- A name with all that could end the quotes, the parameter or an escape. -/
theorem Disposition.headerValue_reads_marks :
    ∃ v, ParameterizedValue.read? (headerValue "attachment" (some "a\"; b\\=%22'ü.txt")) = some v ∧
      v.fileName? = some "a\"; b\\=%22'ü.txt" := by
  obtain ⟨-, -, -, hname⟩ := Disposition.headerValue_reads .attachment (some "a\"; b\\=%22'ü.txt")
  obtain ⟨-, v, hread, -, -, -, -, hfile⟩ := hname "a\"; b\\=%22'ü.txt" rfl (by decide)
  exact ⟨v, hread, hfile (.inr ⟨'ü', by decide, by decide⟩)⟩

end WebMount
