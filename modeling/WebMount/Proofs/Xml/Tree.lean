import WebMount.Proofs.Text.Slice
import WebMount.Xml.Tree

/-!
# A document is read as it is written

The bytes of a well-formed forest have the events of the forest (`reads_of_written`). Within a piece
of markup the machine takes byte after byte until its end (`tokensFrom_through`,
`tokensFrom_quotesClose`), so a tag is one token and other markup is passed over
(`eventsFrom_aside`). The law for forests goes by induction on the forest: what follows it begins
with markup or is the end of the document, which is where a text at its end stops.
-/

namespace WebMount.Xml

open WebMount.Text

/-! ### Pieces of markup -/

theorem tokensFrom_cons (mode : Mode) (b : UInt8) (bytes : Bytes) :
    tokensFrom mode (b :: bytes) = (step mode b).1 ++ tokensFrom (step mode b).2 bytes := rfl

theorem tokensFrom_less (seen bytes : Bytes) :
    tokensFrom (.text seen) (less :: bytes) = .text seen.reverse :: tokensFrom .opened bytes := rfl

/-- Bytes that only are remembered: `mode` tells the mode from the bytes seen, latest first. -/
theorem tokensFrom_through (mode : Bytes → Mode) (seen : Bytes) {body : Bytes}
    (h : ∀ before b after, body = before ++ b :: after →
      step (mode (before.reverse ++ seen)) b = ([], mode (b :: (before.reverse ++ seen))))
    (rest : Bytes) :
    tokensFrom (mode seen) (body ++ rest) = tokensFrom (mode (body.reverse ++ seen)) rest := by
  induction body generalizing seen with
  | nil => rfl
  | cons b body ih =>
    have hb := h [] b body rfl
    rw [List.reverse_nil, List.nil_append] at hb
    have hbody := ih (b :: seen) fun before c after hsplit => by
      have hc := h (b :: before) c after (by rw [hsplit, List.cons_append])
      rwa [List.reverse_cons, List.append_assoc, List.singleton_append] at hc
    rw [List.cons_append, tokensFrom_cons, hb, List.nil_append, hbody, List.reverse_cons,
      List.append_assoc, List.singleton_append]

/-- A text up to the next piece of markup. -/
theorem tokensFrom_text {content : Bytes} (h : less ∉ content) (rest : Bytes) :
    tokensFrom (.text []) (content ++ rest) = tokensFrom (.text content.reverse) rest := by
  have hstep : ∀ before b after, content = before ++ b :: after →
      step (.text (before.reverse ++ [])) b = ([], .text (b :: (before.reverse ++ []))) := by
    intro before b after hsplit
    have hb : b ≠ less := by
      rintro rfl
      exact h (hsplit ▸ List.mem_append_right _ List.mem_cons_self)
    rw [step, if_neg hb]
  have hthrough := tokensFrom_through .text [] hstep rest
  rwa [List.append_nil] at hthrough

/-- The inside of a tag is one token. -/
theorem tokensFrom_quotesClose {quote : Option UInt8} {bytes : Bytes}
    (h : quotesClose quote bytes = true) (seen rest : Bytes) :
    tokensFrom (.tag quote seen) (bytes ++ greater :: rest) =
      .tag (seen.reverse ++ bytes) :: tokensFrom (.text []) rest := by
  induction bytes generalizing quote seen with
  | nil =>
    rw [quotesClose, Option.isNone_iff_eq_none] at h
    rw [h, List.append_nil]
    rfl
  | cons b bytes ih =>
    have hseen : (b :: seen).reverse ++ bytes = seen.reverse ++ b :: bytes := by
      rw [List.reverse_cons, List.append_assoc, List.singleton_append]
    cases quote with
    | some q =>
      rw [quotesClose] at h
      rw [List.cons_append, tokensFrom_cons, ← hseen, ← ih h]
      rfl
    | none =>
      rw [quotesClose, Bool.and_eq_true, bne_iff_ne] at h
      rw [List.cons_append, tokensFrom_cons, step, stepTag, if_neg h.1, ← hseen, ← ih h.2]
      rfl

/-- A tag in angle brackets is one token. -/
theorem tokensFrom_tag {tag : Bytes} (hquotes : quotesClose none tag = true)
    (hbang : tag.head? ≠ some bangMark) (hquestion : tag.head? ≠ some questionMark)
    (rest : Bytes) :
    tokensFrom (.text []) (less :: tag ++ greater :: rest) =
      .text [] :: .tag tag :: tokensFrom (.text []) rest := by
  have htag := tokensFrom_quotesClose hquotes [] rest
  cases tag with
  | nil => rfl
  | cons b tag =>
    have hb : b ≠ bangMark := fun hb => hbang (by rw [hb]; rfl)
    have hb' : b ≠ questionMark := fun hb => hquestion (by rw [hb]; rfl)
    have hopened : step .opened b = step (.tag none []) b := by
      rw [step, if_neg hb, if_neg hb']
      rfl
    rw [List.cons_append, tokensFrom_cons] at htag
    rw [List.cons_append, tokensFrom_less, List.cons_append, tokensFrom_cons, hopened, htag]
    rfl

/-! ### Markup that is passed over -/

/-- If an end mark of two bytes and a `>` does not occur, no two bytes in front of a `>` are such a
mark. -/
theorem take_two_ne {x y : UInt8} {before after opening : Bytes}
    (h : occursIn [x, y, greater] (before ++ greater :: after) = false)
    (hlong : 2 ≤ before.length) :
    (before.reverse ++ opening).take 2 ≠ [y, x] := by
  intro htake
  obtain ⟨t, ht⟩ : ∃ t, before = t ++ [x, y] := by
    have hlength : 2 ≤ before.reverse.length := by rwa [List.length_reverse]
    rw [List.take_append_of_le_length hlength] at htake
    refine ⟨(before.reverse.drop 2).reverse, ?_⟩
    have hsplit := List.take_append_drop 2 before.reverse
    rw [htake] at hsplit
    rw [← List.reverse_reverse before, ← hsplit]
    simp
  have hoccurs : occursIn [x, y, greater] (before ++ greater :: after) = true := by
    rw [occursIn_iff, ht]
    exact ⟨t, after, by simp⟩
  rw [hoccurs] at h
  exact absurd h (by decide)

theorem tokensFrom_comment {body : Bytes} (h : occursIn [dash, dash, greater] body = false)
    (rest : Bytes) :
    tokensFrom (.bang .comment [dash, dash, bangMark]) (body ++ [dash, dash] ++ greater :: rest) =
      .bang ([bangMark, dash, dash] ++ body ++ [dash, dash]) :: tokensFrom (.text []) rest := by
  have hstep : ∀ before b after, body = before ++ b :: after →
      step (.bang .comment (before.reverse ++ [dash, dash, bangMark])) b =
        ([], .bang .comment (b :: (before.reverse ++ [dash, dash, bangMark]))) := by
    intro before b after hsplit
    rw [step, stepBang, if_neg]
    rintro ⟨rfl, hlength, hend⟩
    -- the dashes of the opening do not count, so there are two bytes between them and the `>`
    rw [List.length_append, List.length_reverse] at hlength
    simp only [List.length_cons, List.length_nil] at hlength
    exact take_two_ne (hsplit ▸ h) (by omega) hend
  have hthrough := tokensFrom_through (.bang .comment) _ hstep
  have hclose : step (.bang .comment (dash :: dash :: (body.reverse ++ [dash, dash, bangMark])))
      greater = ([.bang ([bangMark, dash, dash] ++ body ++ [dash, dash])], .text []) := by
    rw [step, stepBang, if_pos ⟨rfl, by simp, rfl⟩]
    simp
  rw [List.append_assoc, hthrough]
  exact congrArg (fun next => next.1 ++ tokensFrom next.2 rest) hclose

theorem tokensFrom_characterData {body : Bytes}
    (h : occursIn [rightBracket, rightBracket, greater] body = false) (rest : Bytes) :
    tokensFrom (.bang .section (Utf8.ofString "![CDATA[").reverse)
        (body ++ [rightBracket, rightBracket] ++ greater :: rest) =
      .bang (Utf8.ofString "![CDATA[" ++ body ++ [rightBracket, rightBracket]) ::
        tokensFrom (.text []) rest := by
  have hstep : ∀ before b after, body = before ++ b :: after →
      step (.bang .section (before.reverse ++ (Utf8.ofString "![CDATA[").reverse)) b =
        ([], .bang .section (b :: (before.reverse ++ (Utf8.ofString "![CDATA[").reverse))) := by
    intro before b after hsplit
    rw [step, stepBang, if_neg]
    rintro ⟨rfl, hend⟩
    -- the opening has no bracket like those of the end
    rcases Nat.lt_or_ge before.length 2 with hshort | hlong
    · match before, hshort with
      | [], _ => exact absurd hend (by decide)
      | [c], _ => exact absurd (List.cons_eq_cons.mp (List.cons_eq_cons.mp hend).2).1 (by decide)
    · exact take_two_ne (hsplit ▸ h) hlong hend
  have hthrough := tokensFrom_through (.bang .section) _ hstep
  have hclose : step (.bang .section (rightBracket :: rightBracket ::
      (body.reverse ++ (Utf8.ofString "![CDATA[").reverse))) greater =
      ([.bang (Utf8.ofString "![CDATA[" ++ body ++ [rightBracket, rightBracket])], .text []) := by
    rw [step, stepBang, if_pos ⟨rfl, rfl⟩]
    simp
  rw [List.append_assoc, hthrough]
  exact congrArg (fun next => next.1 ++ tokensFrom next.2 rest) hclose

theorem tokensFrom_instruction {body : Bytes}
    (h : occursIn [questionMark, greater] (questionMark :: body) = false) (rest : Bytes) :
    tokensFrom (.instruction [questionMark]) (body ++ [questionMark] ++ greater :: rest) =
      .instruction (questionMark :: body ++ [questionMark]) :: tokensFrom (.text []) rest := by
  have hstep : ∀ before b after, body = before ++ b :: after →
      step (.instruction (before.reverse ++ [questionMark])) b =
        ([], .instruction (b :: (before.reverse ++ [questionMark]))) := by
    intro before b after hsplit
    rw [step, if_neg]
    rintro ⟨rfl, hend⟩
    rw [← List.reverse_cons, List.head?_reverse, List.getLast?_eq_some_iff] at hend
    obtain ⟨t, ht⟩ := hend
    have hinfix : [questionMark, greater] <:+: questionMark :: body :=
      ⟨t, after, by rw [hsplit, ← List.cons_append, ht]; simp⟩
    exact absurd ((occursIn_iff.mpr hinfix).symm.trans h) (by decide)
  have hthrough := tokensFrom_through .instruction _ hstep
  have hclose : step (.instruction (questionMark :: (body.reverse ++ [questionMark]))) greater =
      ([.instruction (questionMark :: body ++ [questionMark])], .text []) := by
    rw [step, if_pos ⟨rfl, rfl⟩, if_neg (by simp)]
    simp
  rw [List.append_assoc, hthrough]
  exact congrArg (fun next => next.1 ++ tokensFrom next.2 rest) hclose

theorem tokensFrom_doctype {depth : Nat} {body : Bytes} (h : Aside.isBalanced depth body = true)
    (seen rest : Bytes) :
    tokensFrom (.bang (.declaration depth) seen) (body ++ greater :: rest) =
      .bang (seen.reverse ++ body) :: tokensFrom (.text []) rest := by
  induction body generalizing depth seen with
  | nil =>
    rw [Aside.isBalanced, beq_iff_eq] at h
    rw [h, List.append_nil]
    rfl
  | cons b body ih =>
    have hseen : (b :: seen).reverse ++ body = seen.reverse ++ b :: body := by
      rw [List.reverse_cons, List.append_assoc, List.singleton_append]
    rw [Aside.isBalanced.eq_def] at h
    rw [List.cons_append, tokensFrom_cons, ← hseen, step, stepBang.eq_def]
    dsimp only at h ⊢
    split at h
    · next hb => rw [if_pos hb, ← ih h]; rfl
    · next hb =>
      rw [if_neg hb]
      split at h
      · next hb' =>
        rw [if_pos hb']
        cases depth with
        | zero => exact absurd h Bool.false_ne_true
        | succ depth => rw [← ih h]; rfl
      · next hb' => rw [if_neg hb', ← ih h]; rfl

/-- Well-formed markup beside elements and texts has no events. -/
theorem eventsFrom_aside {markup : Aside} (h : markup.isWellFormed = true) (opened : List Bytes)
    (rest : Bytes) :
    eventsFrom opened (tokensFrom (.text []) (less :: markup.content ++ greater :: rest)) =
      eventsFrom opened (tokensFrom (.text []) rest) := by
  have hbang : ∀ {content : Bytes}, bangValid content = true →
      tokensFrom .opened (content ++ greater :: rest) =
        .bang content :: tokensFrom (.text []) rest →
      eventsFrom opened (.text [] :: tokensFrom .opened (content ++ greater :: rest)) =
        eventsFrom opened (tokensFrom (.text []) rest) := by
    intro content hvalid htoken
    rw [htoken]
    simp only [eventsFrom, hvalid, if_true]
    rfl
  rw [List.cons_append, tokensFrom_less]
  cases markup with
  | comment body =>
    rw [Aside.isWellFormed, Bool.not_eq_true'] at h
    exact hbang rfl (tokensFrom_comment h rest)
  | characterData body =>
    rw [Aside.isWellFormed, Bool.not_eq_true'] at h
    exact hbang rfl (tokensFrom_characterData h rest)
  | instruction body =>
    rw [Aside.isWellFormed, Bool.not_eq_true'] at h
    have htoken : tokensFrom .opened ((Aside.instruction body).content ++ greater :: rest) =
        .instruction (Aside.instruction body).content :: tokensFrom (.text []) rest :=
      tokensFrom_instruction h rest
    rw [htoken]
    rfl
  | doctype body =>
    rw [Aside.isWellFormed, Bool.and_eq_true] at h
    have hvalid : bangValid (Aside.doctype body).content = true := by
      rw [bangValid, Bool.or_eq_true, Bool.and_eq_true]
      exact Or.inr ⟨rfl, h.2⟩
    exact hbang hvalid (tokensFrom_doctype h.1 (Utf8.ofString "!DOCTYPE").reverse rest)

/-! ### Tags -/

theorem isSpace_of_mem_tagName {tag : Bytes} {b : UInt8} (h : b ∈ tagName tag) :
    isSpace b = false := by
  have hall := List.all_eq_true.mp (List.all_takeWhile (p := fun b => !isSpace b) (l := tag)) b h
  rwa [Bool.not_eq_true'] at hall

/-- The parts of what it means for the inside of a tag to be well formed. -/
theorem isTag_iff {tag : Bytes} : isTag tag = true ↔
    tagName tag ≠ [] ∧ (∀ b ∈ tagName tag, b ≠ greater ∧ b ≠ doubleQuote ∧ b ≠ singleQuote) ∧
      tag.head? ≠ some slash ∧ tag.head? ≠ some bangMark ∧ tag.head? ≠ some questionMark ∧
      quotesClose none tag = true := by
  simp [isTag, and_assoc]

/-- Bytes behind closed quotes. -/
theorem quotesClose_append {quote : Option UInt8} {before after : Bytes}
    (hbefore : quotesClose quote before = true) (hafter : quotesClose none after = true) :
    quotesClose quote (before ++ after) = true := by
  induction before generalizing quote with
  | nil =>
    rw [quotesClose, Option.isNone_iff_eq_none] at hbefore
    rwa [hbefore]
  | cons b before ih =>
    cases quote with
    | some q => exact ih hbefore
    | none =>
      rw [quotesClose, Bool.and_eq_true] at hbefore
      rw [List.cons_append, quotesClose, Bool.and_eq_true]
      exact ⟨hbefore.1, ih hbefore.2⟩

/-- Bytes that are neither quotes nor `>`. -/
theorem quotesClose_of_forall {bytes : Bytes}
    (h : ∀ b ∈ bytes, b ≠ greater ∧ b ≠ doubleQuote ∧ b ≠ singleQuote) :
    quotesClose none bytes = true := by
  induction bytes with
  | nil => rfl
  | cons b bytes ih =>
    obtain ⟨hgreater, hdouble, hsingle⟩ := h b List.mem_cons_self
    rw [quotesClose, Bool.and_eq_true, bne_iff_ne, if_neg (not_or.mpr ⟨hdouble, hsingle⟩)]
    exact ⟨hgreater, ih fun c hc => h c (List.mem_cons_of_mem b hc)⟩

theorem trimEnd_append {name spaces : Bytes} (hname : ∀ b ∈ name, isSpace b = false)
    (hspaces : spaces.all isSpace = true) : trimEnd (name ++ spaces) = name := by
  have hdrop : (spaces.reverse ++ name.reverse).dropWhile isSpace = name.reverse := by
    rw [List.dropWhile_append_of_pos fun b hb =>
      List.all_eq_true.mp hspaces b (List.mem_reverse.mp hb)]
    cases hrev : name.reverse with
    | nil => rfl
    | cons b rest =>
      have hb : isSpace b = false := hname b (List.mem_reverse.mp (hrev ▸ List.mem_cons_self))
      rw [List.dropWhile_cons_of_neg (by rw [hb]; decide)]
  rw [trimEnd, List.reverse_append, hdrop, List.reverse_reverse]

/-- The name of an end tag is what stands in front of the spaces at its end. -/
theorem endName_append {name spaces : Bytes} (hne : name ≠ [])
    (hname : ∀ b ∈ name, isSpace b = false) (hspaces : spaces.all isSpace = true) :
    endName (slash :: name ++ spaces) = name := by
  have hsome : ¬(name ++ spaces).all isSpace = true := by
    intro hall
    obtain ⟨b, rest, rfl⟩ := List.exists_cons_of_ne_nil hne
    have hb := List.all_eq_true.mp hall b (by simp)
    rw [hname b List.mem_cons_self] at hb
    exact absurd hb Bool.false_ne_true
  rw [endName, List.cons_append, List.drop_one, List.tail_cons, if_neg hsome,
    trimEnd_append hname hspaces]

theorem eventsFrom_text (opened : List Bytes) (content : Bytes) (tokens : List Token) :
    eventsFrom opened (.text content :: tokens) =
      (Forest.readText content).map .text ++ eventsFrom opened tokens := by
  rw [eventsFrom, Forest.readText]
  split <;> rfl

theorem eventsFrom_empty {tag : Bytes} (h : isTag tag = true) (opened : List Bytes)
    (rest : Bytes) :
    eventsFrom opened (tokensFrom (.text []) (less :: (tag ++ [slash]) ++ greater :: rest)) =
      eventsFrom opened (tokensFrom (.text []) rest) := by
  obtain ⟨hname, -, hslash, hbang, hquestion, hquotes⟩ := isTag_iff.mp h
  have hhead : (tag ++ [slash]).head? = tag.head? := by
    cases tag with
    | nil => exact absurd rfl hname
    | cons b tag => rfl
  rw [tokensFrom_tag (quotesClose_append hquotes (by decide)) (by rwa [hhead]) (by rwa [hhead]),
    eventsFrom_text, eventsFrom.eq_def]
  dsimp only
  rw [hhead, if_neg hslash, if_pos (by simp)]
  rfl

theorem eventsFrom_startTag {tag : Bytes} (h : isTag tag = true) (hlast : tag.getLast? ≠ some slash)
    (opened : List Bytes) (rest : Bytes) :
    eventsFrom opened (tokensFrom (.text []) (less :: tag ++ greater :: rest)) =
      .startTag (localName (tagName tag)) ::
        eventsFrom (tagName tag :: opened) (tokensFrom (.text []) rest) := by
  obtain ⟨-, -, hslash, hbang, hquestion, hquotes⟩ := isTag_iff.mp h
  rw [tokensFrom_tag hquotes hbang hquestion, eventsFrom_text, eventsFrom.eq_def]
  dsimp only
  rw [if_neg hslash, if_neg hlast]
  rfl

theorem eventsFrom_endTag {tag spaces : Bytes} (h : isTag tag = true)
    (hspaces : spaces.all isSpace = true) (opened : List Bytes) (rest : Bytes) :
    eventsFrom (tagName tag :: opened)
        (tokensFrom (.text []) (less :: (slash :: tagName tag ++ spaces) ++ greater :: rest)) =
      .endTag (localName (tagName tag)) :: eventsFrom opened (tokensFrom (.text []) rest) := by
  obtain ⟨hne, hname, -⟩ := isTag_iff.mp h
  have hspace : ∀ b, isSpace b = true → b ≠ greater ∧ b ≠ doubleQuote ∧ b ≠ singleQuote := by
    rintro b hb
    refine ⟨?_, ?_, ?_⟩ <;> (rintro rfl; exact absurd hb (by decide))
  have hquotes : quotesClose none (slash :: tagName tag ++ spaces) = true := by
    refine quotesClose_of_forall fun b hb => ?_
    rw [List.cons_append, List.mem_cons, List.mem_append] at hb
    rcases hb with rfl | hb | hb
    · decide
    · exact hname b hb
    · exact hspace b (List.all_eq_true.mp hspaces b hb)
  have hend := endName_append hne (fun b => isSpace_of_mem_tagName) hspaces
  rw [tokensFrom_tag hquotes (by simp [slash, bangMark]) (by simp [slash, questionMark]),
    eventsFrom_text, eventsFrom.eq_def]
  dsimp only
  rw [if_pos (by rfl), if_pos hend]
  rfl

/-! ### Forests -/

/-- The bytes begin with markup, unless there are none. -/
def AtMarkup (bytes : Bytes) : Prop :=
  bytes = [] ∨ ∃ rest, bytes = less :: rest

/-- A text ends where markup begins, and at the end of the document. -/
theorem eventsFrom_seen {rest : Bytes} (h : AtMarkup rest) (opened : List Bytes) (seen : Bytes) :
    eventsFrom opened (tokensFrom (.text seen) rest) =
      (Forest.readText seen.reverse).map .text ++
        eventsFrom opened (tokensFrom (.text []) rest) := by
  have hnone : Forest.readText [] = [] := rfl
  rcases h with rfl | ⟨rest, rfl⟩
  · rw [tokensFrom, tokensFrom, eventsFrom_text, eventsFrom_text, List.reverse_nil, hnone]
    rfl
  · rw [tokensFrom_less, tokensFrom_less, eventsFrom_text, eventsFrom_text, List.reverse_nil, hnone]
    rfl

theorem atMarkup_render {forest : Forest} (h : forest.beginsWithText = false) {rest : Bytes}
    (hrest : AtMarkup rest) : AtMarkup (forest.render ++ rest) := by
  cases forest with
  | nil => exact hrest
  | text content next => exact absurd h (by simp [Forest.beginsWithText])
  | aside markup next => exact Or.inr ⟨_, rfl⟩
  | empty tag next => exact Or.inr ⟨_, rfl⟩
  | element tag children spaces next => exact Or.inr ⟨_, rfl⟩

/-- **A well-formed forest is read as it is written**, whatever markup follows it. -/
theorem eventsFrom_render {forest : Forest} (h : forest.isWellFormed = true)
    (opened : List Bytes) {rest : Bytes} (hrest : AtMarkup rest) :
    eventsFrom opened (tokensFrom (.text []) (forest.render ++ rest)) =
      forest.events ++ eventsFrom opened (tokensFrom (.text []) rest) := by
  induction forest generalizing opened rest with
  | nil => rfl
  | text content next ih =>
    simp only [Forest.isWellFormed, Bool.and_eq_true, Bool.not_eq_true', List.contains_eq_mem,
      decide_eq_false_iff_not] at h
    obtain ⟨⟨hless, hnext⟩, hnextWell⟩ := h
    rw [Forest.render, List.append_assoc, tokensFrom_text hless,
      eventsFrom_seen (atMarkup_render hnext hrest), List.reverse_reverse,
      ih hnextWell opened hrest, Forest.events, List.append_assoc]
  | aside markup next ih =>
    rw [Forest.isWellFormed, Bool.and_eq_true] at h
    have hmarkup := eventsFrom_aside h.1 opened (next.render ++ rest)
    have hbytes : (Forest.aside markup next).render ++ rest =
        less :: markup.content ++ greater :: (next.render ++ rest) := by
      simp only [Forest.render, List.cons_append, List.append_assoc]
    rw [hbytes, hmarkup, ih h.2 opened hrest]
    rfl
  | empty tag next ih =>
    rw [Forest.isWellFormed, Bool.and_eq_true] at h
    have htag := eventsFrom_empty h.1 opened (next.render ++ rest)
    have hbytes : (Forest.empty tag next).render ++ rest =
        less :: (tag ++ [slash]) ++ greater :: (next.render ++ rest) := by
      simp only [Forest.render, List.cons_append, List.append_assoc]
    rw [hbytes, htag, ih h.2 opened hrest]
    rfl
  | element tag children spaces next ihc ihn =>
    simp only [Forest.isWellFormed, Bool.and_eq_true, bne_iff_ne] at h
    obtain ⟨⟨⟨⟨htag, hlast⟩, hchildren⟩, hspaces⟩, hnext⟩ := h
    -- what follows the children is the end tag of the element
    have hend : AtMarkup (less :: (slash :: tagName tag ++ spaces) ++
        greater :: (next.render ++ rest)) := Or.inr ⟨_, rfl⟩
    have hstart := eventsFrom_startTag htag hlast opened (children.render ++
      (less :: (slash :: tagName tag ++ spaces) ++ greater :: (next.render ++ rest)))
    rw [ihc hchildren _ hend, eventsFrom_endTag htag hspaces, ihn hnext opened hrest] at hstart
    rw [Forest.events, List.cons_append, List.append_assoc, List.cons_append, ← hstart]
    simp only [Forest.render, List.append_assoc, List.cons_append]

/-- **A document is read as it is written.** -/
theorem reads_of_written {document : Bytes} {forest : Forest} (h : forest.isWellFormed = true)
    (hwritten : Written document forest) : Reads document forest := by
  have hall := eventsFrom_render h [] (Or.inl rfl)
  rw [List.append_nil] at hall
  have hevents : eventsFrom [] (tokensFrom (.text []) forest.render) = forest.events :=
    hall.trans (List.append_nil _)
  rcases hwritten with rfl | ⟨rfl, hmark⟩
  · exact hevents
  · rw [Reads, Xml.events, tokens, if_neg hmark]
    exact hevents

theorem HasTree.reads {document : Bytes} {forest : Forest} (h : HasTree document forest) :
    Reads document forest :=
  h.elim (fun hwritten => reads_of_written hwritten.1 hwritten.2) id

end WebMount.Xml
