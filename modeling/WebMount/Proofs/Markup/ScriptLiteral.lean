import Mathlib.Data.List.Induction
import WebMount.Markup.Escape
import WebMount.Markup.ScriptLiteral
import WebMount.Proofs.Text.Reader

/-!
# Escaped text stays in its literal

Text that is put into a literal of a script cannot end the literal, the line or the script element
(`staysInLiteral_escapeScript`), and the literal is read as the text, whatever stands behind it
(`unescapeScript?_escapeScript`, `scriptLiteral_takes`). Every character is escaped by itself; the
only quote in a piece stands behind one backslash, and no piece leaves the number of backslashes in
front of the next one odd (`even_backslashesAtEnd`), so no escape reaches beyond the text.
-/

namespace WebMount.Markup

open WebMount.Text WebMount.Text.Reader

/-- The number of backslashes that a text ends with. -/
def backslashesAtEnd (text : List Char) : Nat :=
  (text.reverse.takeWhile (· == '\\')).length

/-- Text that cannot end the literal that it stands in, nor the line or the script element: each
quote in it has an odd number of backslashes directly before it, so the last one of these does not
belong to another escape. -/
structure StaysInLiteral (contents : String) : Prop where
  not_mem : ∀ c ∈ ['<', '\n', '\r'], c ∉ contents.toList
  quote_escaped : ∀ before after, contents.toList = before ++ '\'' :: after →
    backslashesAtEnd before % 2 = 1

/-! ### The characters that are escaped -/

/-- The characters that do not stand for themselves in a literal. -/
def escapedInScript : List Char :=
  ['\\', '\'', '\n', '\r', '<']

theorem mem_escapedInScript {c : Char} :
    c ∈ escapedInScript ↔ c = '\\' ∨ c = '\'' ∨ c = '\n' ∨ c = '\r' ∨ c = '<' := by
  simp only [escapedInScript, List.mem_cons, List.not_mem_nil, or_false]

/-- Any other character is left as it is. -/
theorem escapeScriptChar_of_not_mem {c : Char} (h : c ∉ escapedInScript) :
    escapeScriptChar c = [c] := by
  rw [mem_escapedInScript] at h
  simp only [not_or] at h
  obtain ⟨hslash, hquote, hfeed, hreturn, htag⟩ := h
  rw [escapeScriptChar] <;> assumption

/-- An escaped character is no line end and begins no tag. -/
theorem not_mem_escapeScriptChar {c : Char} (hc : c = '<' ∨ c = '\n' ∨ c = '\r') (d : Char) :
    c ∉ escapeScriptChar d := by
  by_cases hd : d ∈ escapedInScript
  · rw [mem_escapedInScript] at hd
    rcases hd with rfl | rfl | rfl | rfl | rfl <;> rcases hc with rfl | rfl | rfl <;> decide
  · rw [escapeScriptChar_of_not_mem hd, List.mem_singleton]
    rintro rfl
    refine hd (mem_escapedInScript.mpr ?_)
    rcases hc with rfl | rfl | rfl <;> simp

/-- The only quote in an escaped character is that of a quote, behind one backslash. -/
theorem eq_of_escapeScriptChar_quote {c : Char} {before after : List Char}
    (h : escapeScriptChar c = before ++ '\'' :: after) : before = ['\\'] := by
  have hmem : '\'' ∈ escapeScriptChar c := by simp [h]
  have hquote : c = '\'' := by
    by_cases hc : c ∈ escapedInScript
    · rw [mem_escapedInScript] at hc
      rcases hc with rfl | rfl | rfl | rfl | rfl <;> first | rfl | exact absurd hmem (by decide)
    · rw [escapeScriptChar_of_not_mem hc, List.mem_singleton] at hmem
      exact hmem.symm
  have hpiece : ['\\', '\''] = before ++ '\'' :: after := by rwa [hquote] at h
  rcases before with _ | ⟨first, _ | ⟨second, before⟩⟩
  · exact absurd (List.cons.inj hpiece).1 (by decide)
  · rw [(List.cons.inj hpiece).1]
  · exact absurd (congrArg List.length hpiece) (by simp)

/-! ### Backslashes in front of a quote -/

theorem backslashesAtEnd_backslash (text : List Char) :
    backslashesAtEnd (text ++ ['\\']) = backslashesAtEnd text + 1 := by
  rw [backslashesAtEnd, List.reverse_append]
  rfl

/-- An escaped character leaves an even number of backslashes at the end even. -/
theorem even_backslashesAtEnd_append {text : List Char} (h : backslashesAtEnd text % 2 = 0)
    (c : Char) : backslashesAtEnd (text ++ escapeScriptChar c) % 2 = 0 := by
  by_cases hc : c = '\\'
  · have hpair : text ++ escapeScriptChar c = (text ++ ['\\']) ++ ['\\'] := by
      rw [hc, List.append_assoc]
      rfl
    rw [hpair, backslashesAtEnd_backslash, backslashesAtEnd_backslash]
    omega
  · -- any other piece ends with another character
    have hend : ∃ last piece, (escapeScriptChar c).reverse = last :: piece ∧ last ≠ '\\' := by
      by_cases hmem : c ∈ escapedInScript
      · rw [mem_escapedInScript] at hmem
        rcases hmem with rfl | rfl | rfl | rfl | rfl
        · exact absurd rfl hc
        · exact ⟨'\'', ['\\'], rfl, by decide⟩
        · exact ⟨'n', ['\\'], rfl, by decide⟩
        · exact ⟨'r', ['\\'], rfl, by decide⟩
        · exact ⟨'C', ['3', 'x', '\\'], rfl, by decide⟩
      · exact ⟨c, [], by rw [escapeScriptChar_of_not_mem hmem, List.reverse_singleton], hc⟩
    obtain ⟨last, piece, hpiece, hne⟩ := hend
    rw [backslashesAtEnd, List.reverse_append, hpiece, List.cons_append,
      List.takeWhile_cons_of_neg (by simpa using hne), List.length_nil]

/-- **A text of whole pieces ends with an even number of backslashes.** -/
theorem even_backslashesAtEnd (text : List Char) :
    backslashesAtEnd (text.flatMap escapeScriptChar) % 2 = 0 := by
  induction text using List.reverseRecOn with
  | nil => rfl
  | append_singleton text c ih =>
    rw [List.flatMap_append, List.flatMap_singleton]
    exact even_backslashesAtEnd_append ih c

/-- What stands in a text that is put together of pieces stands in one of the pieces. -/
theorem exists_of_flatMap_eq_append {α β : Type} {f : α → List β} {l : List α} {b : β}
    {before after : List β} (h : l.flatMap f = before ++ b :: after) :
    ∃ front a back, l = front ++ a :: back ∧
      ∃ first rest, f a = first ++ b :: rest ∧ before = front.flatMap f ++ first := by
  induction l generalizing before with
  | nil => exact absurd h (by simp)
  | cons a l ih =>
    rw [List.flatMap_cons, List.append_eq_append_iff] at h
    obtain ⟨inner, hbefore, hrest⟩ | ⟨inner, hpiece, hrest⟩ := h
    · obtain ⟨front, a', back, rfl, first, rest, hfirst, rfl⟩ := ih hrest
      exact ⟨a :: front, a', back, rfl, first, rest, hfirst, by
        rw [hbefore, List.flatMap_cons, List.append_assoc]⟩
    · cases inner with
      | nil =>
        obtain ⟨front, a', back, rfl, first, rest, hfirst, hnil⟩ := @ih [] hrest.symm
        refine ⟨a :: front, a', back, rfl, first, rest, hfirst, ?_⟩
        rw [List.append_nil] at hpiece
        rw [List.flatMap_cons, List.append_assoc, ← hnil, List.append_nil, hpiece]
      | cons b' inner =>
        obtain ⟨rfl, -⟩ := List.cons.inj hrest
        exact ⟨[], a, l, rfl, before, inner, hpiece, rfl⟩

/-- **Escaped text stays in its literal.** -/
theorem staysInLiteral_escapeScript (text : String) : StaysInLiteral (escapeScript text) where
  not_mem c hc hmem := by
    rw [escapeScript, String.toList_ofList, List.mem_flatMap] at hmem
    obtain ⟨d, -, hd⟩ := hmem
    refine not_mem_escapeScriptChar ?_ d hd
    simpa only [List.mem_cons, List.not_mem_nil, or_false] using hc
  quote_escaped before after h := by
    rw [escapeScript, String.toList_ofList] at h
    obtain ⟨front, c, -, -, first, rest, hpiece, rfl⟩ := exists_of_flatMap_eq_append h
    have heven := even_backslashesAtEnd front
    rw [eq_of_escapeScriptChar_quote hpiece, backslashesAtEnd_backslash]
    omega

/-! ### Reading a literal -/

/-- An escaped character is read as the character. -/
theorem scriptChar_takes (c : Char) : scriptChar.Takes (escapeScriptChar c) c := by
  intro rest
  by_cases hc : c ∈ escapedInScript
  · rw [mem_escapedInScript] at hc
    rcases hc with rfl | rfl | rfl | rfl | rfl <;> rfl
  · have hplain : isPlainInScript c = true := by
      rw [mem_escapedInScript] at hc
      simp only [not_or] at hc
      simp [isPlainInScript, hc]
    rw [escapeScriptChar_of_not_mem hc]
    exact run_orElse_of_some (satisfy_takes hplain rest)

/-- **Escaped text is read as the text.** -/
theorem unescapeScript?_escapeScript (text : String) :
    unescapeScript? (escapeScript text) = some text := by
  have hend : scriptChar.run [] = none := rfl
  have hread := run_repeated (fun c (_ : c ∈ text.toList) => scriptChar_takes c) hend
  rw [List.append_nil] at hread
  rw [unescapeScript?, escapeScript, String.toList_ofList, Reader.whole, hread]
  exact congrArg some String.ofList_toList

/-- An escape that stands in the text already is read as it stands there. -/
example : unescapeScript? (escapeScript "\\x3C'\\") = some "\\x3C'\\" := by decide

/-- **Escaped text between quotes is read up to the quote behind it.** -/
theorem scriptLiteral_takes (text : String) :
    scriptLiteral.Takes ('\'' :: (escapeScript text).toList ++ ['\'']) text.toList := by
  have hstop : ∀ rest, scriptChar.run (['\''] ++ rest) = none := fun _ => rfl
  have hclose : (do char '\''; return text.toList : Reader (List Char)).Takes ['\''] text.toList :=
    (char_takes '\'').bind (Takes.pure text.toList)
  rw [escapeScript, String.toList_ofList]
  exact (char_takes '\'').bind (Takes.repeated_bind (fun c _ => scriptChar_takes c) hstop hclose)

end WebMount.Markup
