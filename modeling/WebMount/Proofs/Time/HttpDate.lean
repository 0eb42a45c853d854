import WebMount.Proofs.Text.Reader
import WebMount.Proofs.Time.Calendar
import WebMount.Response.Headers
import WebMount.Time.HttpDate

/-!
# Dates in headers read back

A date header is written for every instant from 1970 to the end of the year 9999 (`Shown`), and
reading it gives the second that the instant lies in (`parse?_of_format?`). The written form is
taken to pieces by the readers of the first of the three forms, one reader for each piece; that the
stamp read is accepted is a law of the calendar.
-/

namespace WebMount

namespace Number

/-! ### Numbers of a fixed width -/

/-- Numbers below a hundred in two digits. -/
theorem renderPadded_two {n : Nat} (h : n < 100) :
    renderPadded 2 n = [(n / 10).digitChar, (n % 10).digitChar] := by
  have hall : ∀ n < 100, renderPadded 2 n = [(n / 10).digitChar, (n % 10).digitChar] := by decide
  exact hall n h

/-- Numbers of four digits in four digits: two for the hundreds and two for the rest. -/
theorem renderPadded_four {n : Nat} (hlow : 1000 ≤ n) (h : n < 10000) :
    renderPadded 4 n = renderPadded 2 (n / 100) ++ renderPadded 2 (n % 100) := by
  have hlast : ∀ m, 10 ≤ m → renderNat m = renderNat (m / 10) ++ [(m % 10).digitChar] :=
    fun m hm => Nat.toDigits_of_base_le (by decide) hm
  -- the four digits, taken off from behind, are two of the hundreds and two of the rest
  have hfirst : n / 10 / 10 / 10 = n / 100 / 10 := by omega
  have hsecond : n / 10 / 10 % 10 = n / 100 % 10 := by omega
  have hthird : n / 10 % 10 = n % 100 / 10 := by omega
  have hfourth : n % 10 = n % 100 % 10 := by omega
  have hdigits : renderNat n = [(n / 100 / 10).digitChar, (n / 100 % 10).digitChar,
      (n % 100 / 10).digitChar, (n % 100 % 10).digitChar] := by
    rw [hlast n (by omega), hlast (n / 10) (by omega), hlast (n / 10 / 10) (by omega), hfirst,
      hsecond, hthird, hfourth, renderNat, Nat.toDigits_of_lt_base (by omega)]
    rfl
  rw [renderPadded, hdigits, renderPadded_two (by omega), renderPadded_two (by omega)]
  rfl

end Number

namespace Time.HttpDate

open WebMount.Text

/-! ### The pieces of a date -/

/-- The value of a digit is read off the digit. -/
theorem digit_takes {d : Nat} (h : d < 10) : digit.Takes [d.digitChar] d := by
  have hall : ∀ d < 10, d.digitChar.isDigit = true ∧ d.digitChar.toNat - '0'.toNat = d := by
    decide
  obtain ⟨hdigit, hvalue⟩ := hall d h
  have hread : digit.Takes ([d.digitChar] ++ []) (d.digitChar.toNat - '0'.toNat) := by
    rw [digit]
    exact (Reader.satisfy_takes hdigit).bind (Reader.Takes.pure _)
  rwa [hvalue] at hread

/-- Two digits are read in the order in which they are written. -/
theorem twoDigits_takes {n : Nat} (h : n < 100) :
    twoDigits.Takes (Number.renderPadded 2 n) n := by
  have htens := digit_takes (d := n / 10) (by omega)
  have hones := digit_takes (d := n % 10) (by omega)
  have hread : twoDigits.Takes ([(n / 10).digitChar] ++ ([(n % 10).digitChar] ++ []))
      (n / 10 * 10 + n % 10) := by
    rw [twoDigits]
    exact htens.bind (hones.bind (Reader.Takes.pure _))
  have hvalue : n / 10 * 10 + n % 10 = n := by omega
  rw [hvalue] at hread
  rw [Number.renderPadded_two h]
  exact hread

/-- Four digits are read as two times two. -/
theorem fourDigits_takes {n : Nat} (hlow : 1000 ≤ n) (h : n < 10000) :
    fourDigits.Takes (Number.renderPadded 4 n) n := by
  have hhundreds := twoDigits_takes (n := n / 100) (by omega)
  have hrest := twoDigits_takes (n := n % 100) (by omega)
  have hread : fourDigits.Takes (Number.renderPadded 2 (n / 100) ++
      (Number.renderPadded 2 (n % 100) ++ [])) (n / 100 * 100 + n % 100) := by
    rw [fourDigits]
    exact hhundreds.bind (hrest.bind (Reader.Takes.pure _))
  have hvalue : n / 100 * 100 + n % 100 = n := by omega
  rwa [hvalue, List.append_nil, ← Number.renderPadded_four hlow h] at hread

/-- Hour, minute and second, with colons between them. -/
theorem timeOfDay_takes {hour minute second : Nat} (hhour : hour < 100) (hminute : minute < 100)
    (hsecond : second < 100) :
    timeOfDay.Takes (Number.renderPadded 2 hour ++ ([':'] ++ (Number.renderPadded 2 minute ++
      ([':'] ++ (Number.renderPadded 2 second ++ []))))) (hour, minute, second) := by
  rw [timeOfDay]
  exact (twoDigits_takes hhour).bind <| (Reader.char_takes ':').bind <|
    (twoDigits_takes hminute).bind <| (Reader.char_takes ':').bind <|
    (twoDigits_takes hsecond).bind (Reader.Takes.pure _)

/-- An entry of the names of the days is read as its place. -/
theorem dayName_takes {i : Nat} (h : i < 7) :
    (Reader.oneOf dayNames).Takes (dayNames.getD i []) i := by
  have hlen : ∀ e ∈ dayNames, e.length = 3 := by decide
  have hnodup : dayNames.Nodup := by decide
  have hentry : ∀ i < 7, dayNames[i]? = some (dayNames.getD i []) := by decide
  exact Reader.oneOf_takes hlen hnodup (hentry i h)

/-- An entry of the names of the months is read as its place. -/
theorem monthName_takes {i : Nat} (h : i < 12) :
    (Reader.oneOf monthNames).Takes (monthNames.getD i []) i := by
  have hlen : ∀ e ∈ monthNames, e.length = 3 := by decide
  have hnodup : monthNames.Nodup := by decide
  have hentry : ∀ i < 12, monthNames[i]? = some (monthNames.getD i []) := by decide
  exact Reader.oneOf_takes hlen hnodup (hentry i h)

/-! ### Stamps -/

/-- A stamp all of whose parts have their places in the written form. -/
structure Stamp.Fits (s : Stamp) : Prop where
  weekday : s.weekday < 7
  day : s.date.day < 100
  month : 1 ≤ s.date.month ∧ s.date.month ≤ 12
  year : 1000 ≤ s.date.year ∧ s.date.year < 10000
  hour : s.hour < 24
  minute : s.minute < 60
  second : s.second < 60

/-- **The written form of a stamp is read back as the stamp.** -/
theorem fixedForm_takes {s : Stamp} (h : s.Fits) : fixedForm.Takes s.render s := by
  -- the name of a month is found at its place, which counts from zero
  have hmonth : s.date.month - 1 + 1 = s.date.month := by have := h.month; omega
  have hhour : s.hour < 100 := by have := h.hour; omega
  have hminute : s.minute < 100 := by have := h.minute; omega
  have hsecond : s.second < 100 := by have := h.second; omega
  have hread : fixedForm.Takes (dayNames.getD s.weekday [] ++ ([',', ' '] ++
      (Number.renderPadded 2 s.date.day ++ ([' '] ++ (monthNames.getD (s.date.month - 1) [] ++
      ([' '] ++ (Number.renderPadded 4 s.date.year ++ ([' '] ++ ((Number.renderPadded 2 s.hour ++
      ([':'] ++ (Number.renderPadded 2 s.minute ++ ([':'] ++ (Number.renderPadded 2 s.second ++
      []))))) ++ ([' ', 'G', 'M', 'T'] ++ []))))))))))
      ⟨s.weekday, ⟨s.date.year, s.date.month - 1 + 1, s.date.day⟩, s.hour, s.minute, s.second⟩ := by
    rw [fixedForm]
    exact (dayName_takes h.weekday).bind <| (Reader.literal_takes _).bind <|
      (twoDigits_takes h.day).bind <| (Reader.char_takes ' ').bind <|
      (monthName_takes (by have := h.month; omega)).bind <| (Reader.char_takes ' ').bind <|
      (fourDigits_takes h.year.1 h.year.2).bind <| (Reader.char_takes ' ').bind <|
      (timeOfDay_takes hhour hminute hsecond).bind <| (Reader.literal_takes _).bind <|
      Reader.Takes.pure _
  rw [hmonth] at hread
  simpa only [Stamp.render, List.append_assoc, List.append_nil] using hread

/-- The written form can be read back as the value of a field. -/
theorem visible_render {s : Stamp} (h : s.Fits) : s.render.all Headers.isVisibleChar = true := by
  have htwo : ∀ n < 100, (Number.renderPadded 2 n).all Headers.isVisibleChar = true := by decide
  have hdays : ∀ i < 7, (dayNames.getD i []).all Headers.isVisibleChar = true := by decide
  have hmonths : ∀ i < 12, (monthNames.getD i []).all Headers.isVisibleChar = true := by decide
  have hyear : (Number.renderPadded 4 s.date.year).all Headers.isVisibleChar = true := by
    have hbounds := h.year
    rw [Number.renderPadded_four (by omega) (by omega), List.all_append, htwo _ (by omega),
      htwo _ (by omega)]
    rfl
  obtain ⟨hweekday, hday, hmonth, -, hhour, hminute, hsecond⟩ := h
  have hname := hmonths (s.date.month - 1) (by omega)
  have hh := htwo s.hour (by omega)
  have hm := htwo s.minute (by omega)
  have hs := htwo s.second (by omega)
  simp only [Stamp.render, List.all_append, hdays _ hweekday, htwo _ hday, hname, hyear, hh, hm, hs]
  decide

/-- Nothing is trimmed off the written form: it begins with a letter and ends with one. -/
theorem trim_render {s : Stamp} (h : s.Fits) : trim s.render = s.render := by
  have hdays : ∀ i < 7, (dayNames.getD i []).head?.isSome = true ∧
      (dayNames.getD i []).head?.all (fun c => !isBlank c) = true := by decide
  obtain ⟨hname, hletter⟩ := hdays s.weekday h.weekday
  refine strip_eq_self ?_ ?_
  · intro a ha
    simp only [Stamp.render, List.append_assoc] at ha
    rw [List.head?_append, Option.or_of_isSome hname] at ha
    rw [Option.mem_def.mp ha, Option.all_some, Bool.not_eq_true'] at hletter
    exact hletter
  · intro a ha
    rw [Stamp.render, List.getLast?_append] at ha
    obtain rfl : 'T' = a := Option.some.inj ha
    decide

/-- The stamp of a second has the parts of a date and a time of day. -/
theorem fits_of_ofSeconds? {n : Nat} {s : Stamp} (h : Stamp.ofSeconds? n = some s) : s.Fits := by
  obtain ⟨date, hdate, rfl⟩ := Option.map_eq_some_iff.mp h
  have hvalid := Date.valid_of_ofDays? hdate
  have hbounds := Date.bounds_of_valid hvalid
  simp only [Date.valid, Bool.and_eq_true, decide_eq_true_eq] at hvalid
  unfold firstYear lastYear at *
  constructor
  · exact Nat.mod_lt _ (by decide)
  · dsimp only; omega
  · dsimp only; omega
  · dsimp only; omega
  · dsimp only; unfold secondsPerDay; omega
  · dsimp only; omega
  · dsimp only; omega

/-- The stamp of a second is accepted. -/
theorem valid_of_ofSeconds? {n : Nat} {s : Stamp} (h : Stamp.ofSeconds? n = some s) :
    s.valid = true := by
  have hfits := fits_of_ofSeconds? h
  obtain ⟨date, hdate, rfl⟩ := Option.map_eq_some_iff.mp h
  have hhour := hfits.hour
  have hminute := hfits.minute
  have hsecond := hfits.second
  simp only [Stamp.valid, Date.valid_of_ofDays? hdate, Date.toDays_of_ofDays? hdate,
    Bool.and_true, Bool.and_eq_true, decide_eq_true_eq, and_true]
  exact ⟨hsecond, hminute, hhour⟩

/-- The stamp of a second denotes the second. -/
theorem toSeconds_of_ofSeconds? {n : Nat} {s : Stamp} (h : Stamp.ofSeconds? n = some s) :
    s.toSeconds = n := by
  obtain ⟨date, hdate, rfl⟩ := Option.map_eq_some_iff.mp h
  simp only [Stamp.toSeconds, Date.toDays_of_ofDays? hdate, secondsPerDay]
  omega

/-! ### Instants -/

/-- The second with which the year 10000 begins. -/
def endOfDates : Nat := 253402300800

/-- An instant from the beginning of 1970 to the end of the year 9999. -/
def Writable (t : Instant) : Prop :=
  0 ≤ t.nanos ∧ t.seconds < endOfDates

/-- **Every instant of the years with four digits can be written.** -/
theorem exists_format? {t : Instant} (h : Writable t) : ∃ date, format? t = some date := by
  obtain ⟨hnonneg, hend⟩ := h
  have hdays : t.seconds.toNat / secondsPerDay < dayCount := by
    unfold endOfDates at hend
    unfold secondsPerDay dayCount
    omega
  obtain ⟨date, hdate⟩ := Date.exists_ofDays? hdays
  simp only [format?, if_pos hnonneg, Stamp.ofSeconds?, hdate, Option.map_some]
  exact ⟨_, rfl⟩

/-- A written date is the text of a stamp. -/
private theorem stamp_of_format? {t : Instant} {date : String} (h : format? t = some date) :
    0 ≤ t.nanos ∧ ∃ s, Stamp.ofSeconds? t.seconds.toNat = some s ∧ date.toList = s.render := by
  rw [format?] at h
  split at h
  · next hnonneg =>
    obtain ⟨s, hs, rfl⟩ := Option.map_eq_some_iff.mp h
    exact ⟨hnonneg, s, hs, String.toList_ofList⟩
  · exact absurd h (by simp)

/-- **No instant of other years can be written.** -/
theorem writable_of_format? {t : Instant} {date : String} (h : format? t = some date) :
    Writable t := by
  obtain ⟨hnonneg, s, hs, -⟩ := stamp_of_format? h
  refine ⟨hnonneg, ?_⟩
  obtain ⟨day, hday, -⟩ := Option.map_eq_some_iff.mp hs
  have hdays := Date.lt_dayCount_of_ofDays? hday
  unfold secondsPerDay dayCount at hdays
  unfold endOfDates
  omega

/-- **A written date is read back as the second that the instant lies in.** -/
theorem parse?_of_format? {t : Instant} {date : String} (h : format? t = some date) :
    parse? date = some (.ofSeconds t.seconds) := by
  obtain ⟨hnonneg, s, hs, htext⟩ := stamp_of_format? h
  have hfits := fits_of_ofSeconds? hs
  have hascii : (date.toList.all fun c => decide (c.toNat < 128)) = true := by
    rw [htext, List.all_eq_true]
    intro c hc
    have hvisible := List.all_eq_true.mp (visible_render hfits) c hc
    simp only [Headers.isVisibleChar, Bool.or_eq_true, Bool.and_eq_true, beq_iff_eq,
      decide_eq_true_eq] at hvisible ⊢
    rcases hvisible with rfl | ⟨-, hhigh⟩
    · decide
    · omega
  have hread : fixedForm.whole s.render = some s := (fixedForm_takes hfits).whole
  have hseconds : (s.toSeconds : Int) = t.seconds := by
    rw [toSeconds_of_ofSeconds? hs]
    exact Int.toNat_of_nonneg (Int.ediv_nonneg hnonneg (by decide))
  -- the form that was written is the first that is tried
  rw [parse?, if_pos hascii]
  simp only [htext, trim_render hfits, hread]
  change (if s.valid then some (Instant.ofSeconds s.toSeconds) else none) = _
  rw [if_pos (valid_of_ofSeconds? hs), hseconds]

/-- A written date can be the value of a header field and be read as text. -/
theorem isVisible_of_format? {t : Instant} {date : String} (h : format? t = some date) :
    Headers.isVisible date = true := by
  obtain ⟨-, s, hs, htext⟩ := stamp_of_format? h
  rw [Headers.isVisible, htext]
  exact visible_render (fits_of_ofSeconds? hs)

end Time.HttpDate

end WebMount
