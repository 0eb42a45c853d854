import WebMount.Proofs.Form.Decoding
import WebMount.Proofs.Markup.Escape
import WebMount.Proofs.Response.Command
import WebMount.Proofs.Time.HttpDate
import WebMount.Suggest.Listing

/-!
# Suggestions are read back

The markup of a list of items whose texts are inert is read as these items (`readList?_listMarkup`),
since the marks that end a value and a label stand in neither. Escaped texts are inert and say what
was escaped, so a client finds the suggestions as the source gave them, and no suggestion can be
anything but text (`listing_faithful`). The answer to a request sends this markup and says that it
is not to be kept.
-/

namespace WebMount

open WebMount.Response WebMount.Text WebMount.Time

namespace SuggestionItem

/-- An item of inert texts is read as it was written. -/
theorem reader_takes {item : SuggestionItem} (hvalue : Markup.IsInert item.value)
    (hlabel : Markup.IsInert item.label) : reader.Takes item.markup.toList item := by
  have hquote : '"' ∉ item.value.toList := hvalue.not_mem _ (by decide)
  have htag : '<' ∉ item.label.toList := hlabel.not_mem _ (by decide)
  have hread : reader.Takes ("<li textvalue=\"".toList ++ ((item.value.toList ++ ['"']) ++
      (['>'] ++ ((item.label.toList ++ ['<']) ++ ("/li>".toList ++ [])))))
      { value := String.ofList item.value.toList, label := String.ofList item.label.toList } :=
    (Reader.literal_takes _).bind <| (Reader.through_takes hquote).bind <|
      (Reader.char_takes '>').bind <| (Reader.through_takes htag).bind <|
      (Reader.literal_takes _).bind (Reader.Takes.pure _)
  rw [String.ofList_toList, String.ofList_toList] at hread
  have htext : item.markup.toList = "<li textvalue=\"".toList ++ ((item.value.toList ++ ['"']) ++
      (['>'] ++ ((item.label.toList ++ ['<']) ++ ("/li>".toList ++ [])))) := by
    have hopen : "\">".toList = ['"'] ++ ['>'] := rfl
    have hclose : "</li>".toList = ['<'] ++ "/li>".toList := rfl
    change ("<li textvalue=\"" ++ item.value ++ "\">" ++ item.label ++ "</li>").toList = _
    simp only [String.toList_append, hopen, hclose, List.append_assoc, List.append_nil]
  rwa [htext]

/-- **A list of inert items is read as it was written.** -/
theorem readList?_listMarkup {items : List SuggestionItem}
    (h : ∀ item ∈ items, Markup.IsInert item.value ∧ Markup.IsInert item.label) :
    readList? (listMarkup items) = some items := by
  have hitems : ∀ item ∈ items, reader.Takes item.markup.toList item :=
    fun item hitem => reader_takes (h item hitem).1 (h item hitem).2
  -- the end of the list is no beginning of an item
  have hstop : ∀ rest, reader.run (("</ul>".toList ++ []) ++ rest) = none := fun _ => rfl
  have hread : listReader.Takes ("<ul>".toList ++ (items.flatMap (fun item => item.markup.toList) ++
      ("</ul>".toList ++ []))) items :=
    (Reader.literal_takes _).bind <| Reader.Takes.repeated_bind hitems hstop <|
      (Reader.literal_takes _).bind (Reader.Takes.pure _)
  have htext : (listMarkup items).toList = "<ul>".toList ++
      (items.flatMap (fun item => item.markup.toList) ++ ("</ul>".toList ++ [])) := by
    change ("<ul>" ++ String.join (items.map markup) ++ "</ul>").toList = _
    rw [String.toList_append, String.toList_append, String.toList_join, List.flatMap_map,
      List.append_assoc, List.append_nil]
  rw [readList?, htext]
  exact hread.whole

/-- A suggestion as an item. -/
def ofChoice (choice : String) : SuggestionItem :=
  { value := Markup.escape choice, label := Markup.escape choice }

theorem said?_escape (text : String) : said? (Markup.escape text) = some text := by
  rw [said?, Markup.unescape?_escape, Option.map_some, String.ofList_toList]

end SuggestionItem

namespace SuggestionField

theorem listMarkup_eq (choices : List String) :
    listMarkup choices = SuggestionItem.listMarkup (choices.map SuggestionItem.ofChoice) := by
  rw [listMarkup, SuggestionItem.listMarkup, List.map_map]
  rfl

/-! ### The answer to a request -/

/-- The header fields of an answer with a body, on a day that is written as a date. -/
def answerFields (date : String) (body : Bytes) : List (String × String) :=
  [("content-type", "text/xml; charset=utf-8"), ("date", date),
    ("expires", "Thu, 01 Jan 1970 00:00:00 GMT"), ("pragma", "no-cache"),
    ("cache-control", "no-cache, no-store"), ("content-length", toString body.length)]

private theorem ops_contentType : (Command.contentType "text/xml; charset=utf-8").ops =
    .ok (headerOps [("content-type", "text/xml; charset=utf-8")]) := by
  have hvalue : Headers.isValue "text/xml; charset=utf-8" = true := by decide
  rw [Command.ops, textHeader, if_pos hvalue]
  rfl

/-- What is said to a response sets the fields and writes the body. -/
theorem commands_standFor (field : SuggestionField) {request : Request} {date : String}
    (hdate : HttpDate.format? request.received = some date) :
    let body := Utf8.ofString (field.render (inputOf request))
    StandFor (field.commands request) (headerOps (answerFields date body) ++ [.write body]) := by
  intro body
  have hcaching : (Command.disableCaching request.received).ops = .ok (headerOps
      [("date", date), ("expires", "Thu, 01 Jan 1970 00:00:00 GMT"), ("pragma", "no-cache"),
        ("cache-control", "no-cache, no-store")]) := by
    have hepoch : HttpDate.format? .epoch = some "Thu, 01 Jan 1970 00:00:00 GMT" := by decide
    simp only [Command.ops, disableCaching, dateHeader, hdate, hepoch]
    rfl
  have hlength : (Command.contentLength body.length).ops =
      .ok (headerOps [("content-length", toString body.length)]) := rfl
  have hwrite : (Command.write body).ops = .ok [.write body] := rfl
  exact (StandFor.of_ops ops_contentType).append <| (StandFor.of_ops hcaching).append <|
    (StandFor.of_ops hlength).append (StandFor.of_ops hwrite)

/-- The answer with a body, as a response that is kept whole. -/
def answered (date : String) (body : Bytes) : Buffered :=
  { head := ⟨200, ⟨answerFields date body⟩⟩, written := [body], committed := true }

/-- The answer to a request is complete if the instant of the request can be written. -/
theorem respond_buffered (field : SuggestionField) {request : Request} {date : String}
    (hdate : HttpDate.format? request.received = some date) :
    field.respond request ({} : Buffered) =
      (.ok (), answered date (Utf8.ofString (field.render (inputOf request)))) := by
  have hlower : ∀ name ∈ ["content-type", "date", "expires", "pragma", "cache-control",
      "content-length"], Headers.canonicalName name = name := by decide
  have hset : ∀ body, Headers.setAll {} (answerFields date body) = ⟨answerFields date body⟩ := by
    intro body
    refine Headers.setAll_of_nodup (fun f hf => hlower f.1 (List.mem_map_of_mem hf)) ?_
    change ["content-type", "date", "expires", "pragma", "cache-control",
      "content-length"].Nodup
    decide
  rw [respond, commands_standFor field hdate, run_buffered, headerOps, List.foldl_append,
    Buffered.foldl_header rfl, hset]
  rfl

/-- A request from outside the years that dates can show is not answered: nothing is sent. -/
theorem respond_unwritable (field : SuggestionField) {request : Request}
    (hdate : HttpDate.format? request.received = none) :
    field.respond request ({} : Buffered) = (.error (.crash (.unwritableDate request.received)),
      { head := ⟨200, ⟨[("content-type", "text/xml; charset=utf-8")]⟩⟩ }) := by
  have htype : perform ({} : Buffered) (.contentType "text/xml; charset=utf-8") =
      (.ok (), { head := ⟨200, ⟨[("content-type", "text/xml; charset=utf-8")]⟩⟩ }) :=
    perform_buffered ops_contentType {}
  have hcaching : ∀ b : Buffered, perform b (.disableCaching request.received) =
      (.error (.crash (.unwritableDate request.received)), b) := by
    intro b
    rw [perform, Command.ops, disableCaching, dateHeader, hdate]
    rfl
  simp only [respond, commands, performAll, htype, hcaching]

/-- **Lists of suggestions are safe and complete.** Whatever texts a source gives, their list is
made of one item for each of them, whose value and label are nothing but text; reading the markup
gives exactly these items, and both texts of an item say the suggestion. The answer to a request
performs on every response the operations that set the fields, among them the length of the body
and those that forbid to keep it, and write the markup for the first value of `q`, or for the empty
text if there is none. -/
theorem listing_faithful (field : SuggestionField) :
    (∀ input, ∃ items : List SuggestionItem,
      field.render input = SuggestionItem.listMarkup items ∧
      (∀ item ∈ items, Markup.IsInert item.value ∧ Markup.IsInert item.label) ∧
      SuggestionItem.readList? (field.render input) = some items ∧
      items.map (fun item => SuggestionItem.said? item.value) =
        (field.source.suggestions input).map some ∧
      items.map (fun item => SuggestionItem.said? item.label) =
        (field.source.suggestions input).map some) ∧
    ∀ request : Request, ∃ typed? : Option String,
      UrlEncoded.IsFirstValue (UrlEncoded.decode request.queryText) "q" typed? ∧
      let body := Utf8.ofString (field.render (typed?.getD ""))
      (HttpDate.Writable request.received → ∃ date,
        HttpDate.format? request.received = some date ∧
        (∀ (σ : Type) [Sink σ] (sink : σ),
          let performed := run sink (headerOps (answerFields date body) ++ [.write body])
          field.respond request sink = (performed.1.mapError .io, performed.2)) ∧
        field.respond request ({} : Buffered) = (.ok (), answered date body)) ∧
      (HttpDate.format? request.received = none →
        field.respond request ({} : Buffered) =
          (.error (.crash (.unwritableDate request.received)),
            { head := ⟨200, ⟨[("content-type", "text/xml; charset=utf-8")]⟩⟩ })) := by
  constructor
  · intro input
    have hmarkup : field.render input = SuggestionItem.listMarkup
        ((field.source.suggestions input).map SuggestionItem.ofChoice) :=
      listMarkup_eq (field.source.suggestions input)
    have hinert : ∀ item ∈ (field.source.suggestions input).map SuggestionItem.ofChoice,
        Markup.IsInert item.value ∧ Markup.IsInert item.label := by
      intro item hitem
      obtain ⟨choice, -, rfl⟩ := List.mem_map.mp hitem
      exact ⟨Markup.isInert_escape choice, Markup.isInert_escape choice⟩
    refine ⟨_, hmarkup, hinert, ?_, ?_, ?_⟩
    · rw [hmarkup]
      exact SuggestionItem.readList?_listMarkup hinert
    · simp only [List.map_map, Function.comp_def, SuggestionItem.ofChoice,
        SuggestionItem.said?_escape]
    · simp only [List.map_map, Function.comp_def, SuggestionItem.ofChoice,
        SuggestionItem.said?_escape]
  · intro request
    refine ⟨request.parameter? "q", UrlEncoded.isFirstValue_valueOf? _ _, ?_, ?_⟩
    · intro hwritable
      obtain ⟨date, hdate⟩ := HttpDate.exists_format? hwritable
      refine ⟨date, hdate, fun σ _ sink => ?_, respond_buffered field hdate⟩
      exact commands_standFor field hdate σ sink
    · exact respond_unwritable field

/-- A suggestion of markup, one that looks escaped already and one that tries to end its item, for a
name that is asked for twice. -/
theorem listing_faithful_hostile :
    let choices := ["Tom & Jerry's <Land>", "&lt;b&gt; &amp;#39;", "\"></li><li textvalue=\"ü"]
    let field : SuggestionField := { id := "country", source := .computed fun _ => choices }
    let request : Request := .ofTarget "GET" "/wicket/autocomplete/country?p=1&q=%3Cb%3E&q=2"
    HttpDate.Writable request.received ∧
    (∃ items, SuggestionItem.readList? (field.render "x") = some items ∧
      items.map (fun item => SuggestionItem.said? item.label) = choices.map some) ∧
    ∃ typed? date, UrlEncoded.IsFirstValue [("p", "1"), ("q", "<b>"), ("q", "2")] "q" typed? ∧
      field.respond request ({} : Buffered) =
        (.ok (), answered date (Utf8.ofString (field.render (typed?.getD "")))) := by
  intro choices field request
  have hreceived : request.received = .epoch := by decide +kernel
  have hwritable : HttpDate.Writable request.received := by
    rw [hreceived]
    exact ⟨by decide, by decide⟩
  have hpairs : UrlEncoded.decode request.queryText = [("p", "1"), ("q", "<b>"), ("q", "2")] := by
    decide +kernel
  obtain ⟨hlist, hrequest⟩ := listing_faithful field
  obtain ⟨items, -, -, hread, -, hlabel⟩ := hlist "x"
  obtain ⟨typed?, htyped, hanswer, -⟩ := hrequest request
  obtain ⟨date, -, -, hrespond⟩ := hanswer hwritable
  rw [hpairs] at htyped
  exact ⟨hwritable, ⟨items, hread, hlabel⟩, typed?, date, htyped, hrespond⟩

end SuggestionField

end WebMount
