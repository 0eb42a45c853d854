import WebMount.Proofs.Markup.ScriptLiteral
import WebMount.Suggest.Binding

/-!
# The arguments of the call that binds a field

Whatever the markup id of a field and the paths of the mount are, the script behind the field makes
one call with two literals that nothing in them can end, and a client reads the id and the address
of the suggestions from it (`initMarkup_binds`).
-/

namespace WebMount

open WebMount.Text

namespace Binding

/-- The call with two escaped texts is read as a call with these texts. -/
theorem reader_takes (id url : String) :
    reader.Takes ("new WicketAutoComplete('" ++ Markup.escapeScript id ++ "','"
      ++ Markup.escapeScript url ++ "');").toList { id, url } := by
  have hread : reader.Takes ("new WicketAutoComplete(".toList ++
      (('\'' :: (Markup.escapeScript id).toList ++ ['\'']) ++ ([','] ++
        (('\'' :: (Markup.escapeScript url).toList ++ ['\'']) ++ (");".toList ++ [])))))
      { id := String.ofList id.toList, url := String.ofList url.toList } :=
    (Reader.literal_takes _).bind <| (Markup.scriptLiteral_takes id).bind <|
      (Reader.char_takes ',').bind <| (Markup.scriptLiteral_takes url).bind <|
      (Reader.literal_takes _).bind (Reader.Takes.pure _)
  rw [String.ofList_toList, String.ofList_toList] at hread
  have hopen : "new WicketAutoComplete('".toList = "new WicketAutoComplete(".toList ++ ['\''] := rfl
  have hbetween : "','".toList = ['\''] ++ [','] ++ ['\''] := rfl
  have hclose : "');".toList = ['\''] ++ ");".toList := rfl
  simpa only [String.toList_append, hopen, hbetween, hclose, List.append_assoc, List.append_nil,
    List.cons_append, List.nil_append] using hread

end Binding

namespace SuggestionField

/-- A client reads the id and the address of the suggestions. -/
theorem read?_initStatement (field : SuggestionField) (contextPath filterPath : String) :
    Binding.read? (field.initStatement contextPath filterPath) =
      some { id := field.id, url := field.callbackUrl contextPath filterPath } :=
  (Binding.reader_takes _ _).whole

/-- Nothing in the call begins a tag. -/
theorem not_mem_initStatement (field : SuggestionField) (contextPath filterPath : String) :
    '<' ∉ (field.initStatement contextPath filterPath).toList := by
  have hopen : '<' ∉ "new WicketAutoComplete('".toList := by decide
  have hbetween : '<' ∉ "','".toList := by decide
  have hclose : '<' ∉ "');".toList := by decide
  have hescaped : ∀ text, '<' ∉ (Markup.escapeScript text).toList := fun text =>
    (Markup.staysInLiteral_escapeScript text).not_mem '<' (by decide)
  unfold initStatement
  simp only [String.toList_append, List.mem_append, not_or]
  exact ⟨⟨⟨⟨hopen, hescaped _⟩, hbetween⟩, hescaped _⟩, hclose⟩

/-- **The script that binds a field cannot be left and passes its arguments unchanged.** Between
its tags stands one call with two literals. Neither of them holds a character that begins a tag, a
line feed or a carriage return, each quote in them belongs to an escape, and they are read as the
markup id and the address of the suggestions, each by itself and as the arguments of the call. -/
theorem initMarkup_binds (field : SuggestionField) (contextPath filterPath : String) :
    ∃ id url : String,
      field.initMarkup contextPath filterPath =
        "<script type=\"text/javascript\"><!--/*--><![CDATA[/*><!--*/\n" ++
          ("new WicketAutoComplete('" ++ id ++ "','" ++ url ++ "');") ++
            "\n/*-->]]>*/</script>" ∧
      Markup.StaysInLiteral id ∧ Markup.StaysInLiteral url ∧
      Markup.unescapeScript? id = some field.id ∧
      Markup.unescapeScript? url = some (field.callbackUrl contextPath filterPath) ∧
      '<' ∉ (field.initStatement contextPath filterPath).toList ∧
      Binding.read? (field.initStatement contextPath filterPath) =
        some { id := field.id, url := field.callbackUrl contextPath filterPath } :=
  ⟨Markup.escapeScript field.id, Markup.escapeScript (field.callbackUrl contextPath filterPath),
    rfl, Markup.staysInLiteral_escapeScript _, Markup.staysInLiteral_escapeScript _,
    Markup.unescapeScript?_escapeScript _, Markup.unescapeScript?_escapeScript _,
    not_mem_initStatement field contextPath filterPath,
    read?_initStatement field contextPath filterPath⟩

end SuggestionField

end WebMount
