import WebMount.Proofs.Text.Slice
import WebMount.Server.Basic

/-!
# The order in which media types are registered

A media type is registered under the extension without the dots in front and in lower case
(`MediaTypes.registeredName`), so two entries of a configuration can stand for one extension
although they are written differently. The later one takes the place of the earlier one
(`lookup_ofList`). Therefore the order of the entries does not matter exactly if those that stand
for one extension of files agree (`order_irrelevant_iff`). An entry that no file name can ask for,
because it holds a dot or a slash, may say what it likes. For what is sent to clients it is enough
that the entries for one extension are sent alike (`SentAlike.filter_typeOf?_eq`).
-/

namespace WebMount

open WebMount.Text

/-! ### Extensions of file names -/

namespace Path

/-- What follows the last dot of a name that has something in front of it. -/
theorem extensionOf?_append {name tail : List Char} (hname : name ≠ []) (htail : '.' ∉ tail) :
    extensionOf? (name ++ '.' :: tail) = some tail := by
  have hreverse : (name ++ '.' :: tail).reverse = tail.reverse ++ '.' :: name.reverse := by simp
  have hsplit : splitFirst? '.' (name ++ '.' :: tail).reverse =
      some (tail.reverse, name.reverse) := by
    rw [hreverse]
    exact splitFirst?_append _ fun hmem => htail (List.mem_reverse.mp hmem)
  obtain ⟨c, rest, hrest⟩ := List.exists_cons_of_ne_nil (List.reverse_ne_nil_iff.mpr hname)
  rw [extensionOf?, hsplit, hrest]
  dsimp only
  rw [List.reverse_reverse]

/-- A path without slashes is the name of a file, unless it is no component that names one. -/
theorem fileName?_of_plain {name : String} (hslash : '/' ∉ name.toList)
    (hname : name ∉ ["", ".", ".."]) : fileName? name = some name := by
  have hpieces : pieces name = [name] := by
    rw [pieces, splitAll_of_not_mem hslash, List.map_singleton, String.ofList_toList]
  simp only [List.mem_cons, List.not_mem_nil, or_false, not_or] at hname
  obtain ⟨hempty, hself, hup⟩ := hname
  rw [fileName?, hpieces]
  simp [hempty, hself, hup]

/-- Any text without dots and slashes is the extension of a file name. -/
theorem exists_extension? {tail : List Char} (hdot : '.' ∉ tail) (hslash : '/' ∉ tail) :
    ∃ path, extension? path = some (String.ofList tail) := by
  have hname : String.ofList ('x' :: '.' :: tail) ∉ ["", ".", ".."] := by
    intro hmem
    have hhead : ∀ text ∈ ["", ".", ".."], text.toList.head? ≠ some 'x' := by decide
    refine hhead _ hmem ?_
    rw [String.toList_ofList]
    rfl
  have hplain : '/' ∉ (String.ofList ('x' :: '.' :: tail)).toList := by
    rw [String.toList_ofList]
    simp [hslash]
  have htail : extensionOf? ('x' :: '.' :: tail) = some tail :=
    extensionOf?_append (List.cons_ne_nil 'x' []) hdot
  refine ⟨String.ofList ('x' :: '.' :: tail), ?_⟩
  rw [extension?, fileName?_of_plain hplain hname, Option.bind_eq_bind, Option.bind_some,
    String.toList_ofList, htail]
  rfl

/-- An extension holds no dots and no slashes. -/
theorem plain_of_extension? {path tail : String} (h : extension? path = some tail) :
    '.' ∉ tail.toList ∧ '/' ∉ tail.toList := by
  simp only [extension?, Option.bind_eq_bind, Option.bind_eq_some_iff] at h
  obtain ⟨name, hname, l, hl, heq⟩ := h
  obtain rfl : String.ofList l = tail := Option.some.inj heq
  rw [String.toList_ofList]
  have hslash : '/' ∉ name.toList := by
    have hmem : name ∈ pieces path := by
      unfold fileName? at hname
      split at hname
      · exact absurd hname (by simp)
      · exact (List.mem_filter.mp (List.mem_of_getLast? hname)).1
    obtain ⟨piece, hpiece, rfl⟩ := List.mem_map.mp hmem
    rw [String.toList_ofList]
    exact not_mem_of_mem_splitAll hpiece
  unfold extensionOf? at hl
  split at hl
  · exact absurd hl (by simp)
  · next before rest hne hsplit =>
    obtain rfl : before.reverse = l := Option.some.inj hl
    obtain ⟨hreverse, hdot⟩ := splitFirst?_eq_some hsplit
    refine ⟨fun hmem => hdot (List.mem_reverse.mp hmem), fun hmem => hslash ?_⟩
    rw [← List.mem_reverse, hreverse]
    exact List.mem_append_left _ (List.mem_reverse.mp hmem)
  · exact absurd hl (by simp)

end Path

namespace MediaTypes

/-! ### The name that counts -/

/-- The name under which a media type is registered for an extension. -/
def registeredName (name : String) : String :=
  canonicalExtension (String.ofList (name.toList.dropWhile (· == '.')))

/-- Whether a name can be the extension of a file. -/
def IsExtension (name : String) : Prop :=
  '.' ∉ name.toList ∧ '/' ∉ name.toList

theorem toList_canonicalExtension (name : String) :
    (canonicalExtension name).toList = name.toList.map Char.toLower := by
  rw [canonicalExtension, String.toList_ofList, toLowerAscii]

/-- A character in front of the letters is not the lower case of another one. -/
private theorem eq_of_toLower_eq {c d : Char} (hd : d.toNat < 'A'.toNat) (h : c.toLower = d) :
    c = d := by
  unfold Char.toLower at h
  split at h
  · next hupper =>
    have hlow : 65 ≤ c.val.toNat := UInt32.le_iff_toNat_le.mp hupper.1
    have hhigh : c.val.toNat ≤ 90 := UInt32.le_iff_toNat_le.mp hupper.2
    have hval : d.toNat = (c.val + 32).toNat := by rw [← h]; rfl
    rw [hval, UInt32.toNat_add] at hd
    have hletter : 'A'.toNat = 65 := rfl
    have hshift : (32 : UInt32).toNat = 32 := rfl
    omega
  · exact h

/-- Lower case adds no dots and no slashes, and takes none away. -/
theorem isExtension_canonicalExtension {name : String} :
    IsExtension (canonicalExtension name) ↔ IsExtension name := by
  have hmem : ∀ d : Char, d.toLower = d → d.toNat < 'A'.toNat →
      (d ∈ (canonicalExtension name).toList ↔ d ∈ name.toList) := by
    intro d hlower hd
    rw [toList_canonicalExtension, List.mem_map]
    constructor
    · rintro ⟨c, hc, heq⟩
      exact eq_of_toLower_eq hd heq ▸ hc
    · intro hc
      exact ⟨d, hc, hlower⟩
  rw [IsExtension, IsExtension, hmem '.' rfl (by decide), hmem '/' rfl (by decide)]

/-- **A registered name is asked for by some file name exactly if it can be an extension.** -/
theorem isExtension_registeredName {name : String} : IsExtension (registeredName name) ↔
    ∃ path tail, Path.extension? path = some tail ∧
      canonicalExtension tail = registeredName name := by
  constructor
  · intro h
    rw [registeredName, isExtension_canonicalExtension, IsExtension, String.toList_ofList] at h
    obtain ⟨path, hpath⟩ := Path.exists_extension? h.1 h.2
    exact ⟨path, _, hpath, rfl⟩
  · rintro ⟨path, tail, hpath, htail⟩
    rw [← htail, isExtension_canonicalExtension]
    exact Path.plain_of_extension? hpath

/-! ### The last entry counts -/

theorem registered_register (types : MediaTypes) (name mediaType : String) :
    (types.register name mediaType).registered =
      put (registeredName name) mediaType types.registered :=
  rfl

private theorem lookup_foldl_register (entries : List (String × String)) (types : MediaTypes)
    (name : String) :
    (entries.foldl (fun types (name, mediaType) => types.register name mediaType)
        types).registered.lookup name =
      ((entries.reverse.find? fun e => registeredName e.1 == name).map Prod.snd).or
        (types.registered.lookup name) := by
  induction entries generalizing types with
  | nil => rfl
  | cons entry entries ih =>
    rw [List.foldl_cons, ih, registered_register, lookup_put, List.reverse_cons, List.find?_append,
      Option.map_or, Option.or_assoc, List.find?_singleton]
    refine congrArg (Option.or _) ?_
    by_cases hname : name = registeredName entry.1
    · simp [hname]
    · simp [hname, Ne.symm hname]

/-- **The media type registered under a name is that of the last entry for it.** -/
theorem lookup_ofList (entries : List (String × String)) (name : String) :
    (ofList entries).registered.lookup name =
      (entries.reverse.find? fun e => registeredName e.1 == name).map Prod.snd := by
  rw [ofList, lookup_foldl_register, List.lookup_nil, Option.or_none]

/-- The media type of a file is the one registered under its extension, or else the well-known
one. -/
theorem typeOf?_eq {types : MediaTypes} {fileName tail : String}
    (h : Path.extension? fileName = some tail) :
    types.typeOf? fileName =
      (types.registered.lookup (canonicalExtension tail) <|>
        wellKnownMediaTypes.lookup
          (String.ofList (foldCase (canonicalExtension tail).toList))) := by
  rw [typeOf?, h]
  rfl

/-! ### Orders that agree -/

section

variable {entries first second : List (String × String)} {β : Type}

/-- Entries for one extension of files that show the same, through whatever view of a media type,
show it in every order. -/
theorem bind_lookup_eq (view : String → Option β) {name : String}
    (h : ∀ a ∈ entries, ∀ b ∈ entries, registeredName a.1 = registeredName b.1 →
      IsExtension (registeredName a.1) → view a.2 = view b.2)
    (hfirst : first.Perm entries) (hsecond : second.Perm entries) (hname : IsExtension name)
    (otherwise : Option String) :
    ((ofList first).registered.lookup name <|> otherwise).bind view =
      ((ofList second).registered.lookup name <|> otherwise).bind view := by
  have hmem : ∀ e, e ∈ first.reverse ↔ e ∈ second.reverse := by
    intro e
    rw [List.mem_reverse, List.mem_reverse, hfirst.mem_iff, hsecond.mem_iff]
  rw [lookup_ofList, lookup_ofList]
  cases hfound : first.reverse.find? fun e => registeredName e.1 == name with
  | none =>
    have hnone : (second.reverse.find? fun e => registeredName e.1 == name) = none := by
      rw [List.find?_eq_none] at hfound ⊢
      intro e he
      exact hfound e ((hmem e).mpr he)
    rw [hnone]
  | some a =>
    have ha : a ∈ first.reverse := List.mem_of_find?_eq_some hfound
    have hnamea := List.find?_some hfound
    have hsome : (second.reverse.find? fun e => registeredName e.1 == name).isSome = true :=
      List.find?_isSome.mpr ⟨a, (hmem a).mp ha, hnamea⟩
    obtain ⟨b, hfoundb⟩ := Option.isSome_iff_exists.mp hsome
    have hb : b ∈ second.reverse := List.mem_of_find?_eq_some hfoundb
    have hnameb := List.find?_some hfoundb
    rw [beq_iff_eq] at hnamea hnameb
    have hsame : view a.2 = view b.2 :=
      h a (hfirst.mem_iff.mp (List.mem_reverse.mp ha)) b
        (hsecond.mem_iff.mp (List.mem_reverse.mp hb)) (hnamea.trans hnameb.symm) (hnamea ▸ hname)
    rw [hfoundb]
    exact hsame

/-- In every order they show the same of the media type of every file. -/
theorem bind_typeOf?_eq (view : String → Option β)
    (h : ∀ a ∈ entries, ∀ b ∈ entries, registeredName a.1 = registeredName b.1 →
      IsExtension (registeredName a.1) → view a.2 = view b.2)
    (hfirst : first.Perm entries) (hsecond : second.Perm entries) (fileName : String) :
    ((ofList first).typeOf? fileName).bind view =
      ((ofList second).typeOf? fileName).bind view := by
  cases htail : Path.extension? fileName with
  | none =>
    rw [typeOf?, typeOf?, htail]
    rfl
  | some tail =>
    have hplain : IsExtension (canonicalExtension tail) :=
      isExtension_canonicalExtension.mpr (Path.plain_of_extension? htail)
    rw [typeOf?_eq htail, typeOf?_eq htail]
    exact bind_lookup_eq view h hfirst hsecond hplain _

/-- An entry that comes last decides for the files of its extension. -/
theorem typeOf?_of_last {entry : String × String} {fileName tail : String}
    (htail : Path.extension? fileName = some tail)
    (hname : canonicalExtension tail = registeredName entry.1) :
    (ofList (entries ++ [entry])).typeOf? fileName = some entry.2 := by
  rw [typeOf?_eq htail, hname, lookup_ofList]
  simp

/-- Each of the entries may come last. -/
theorem perm_last {e : String × String} (he : e ∈ entries) :
    (entries.erase e ++ [e]).Perm entries :=
  (List.perm_append_singleton e _).trans (List.perm_cons_erase he).symm

end

/-- Entries that stand for one extension of files give the same media type. -/
def Consistent (entries : List (String × String)) : Prop :=
  ∀ a ∈ entries, ∀ b ∈ entries, registeredName a.1 = registeredName b.1 →
    IsExtension (registeredName a.1) → a.2 = b.2

/-- All orders of registration give every file the same media type exactly if the entries are
consistent. -/
theorem forall_perm_typeOf?_eq_iff (entries : List (String × String)) :
    (∀ first second : List (String × String), first.Perm entries → second.Perm entries →
        ∀ fileName, (ofList first).typeOf? fileName = (ofList second).typeOf? fileName) ↔
      Consistent entries := by
  constructor
  · intro h a ha b hb hnames hextension
    obtain ⟨fileName, tail, htail, hname⟩ := isExtension_registeredName.mp hextension
    have hsame := h _ _ (perm_last ha) (perm_last hb) fileName
    rw [typeOf?_of_last htail hname, typeOf?_of_last htail (hname.trans hnames)] at hsame
    exact Option.some.inj hsame
  · intro h first second hfirst hsecond fileName
    have hshown := bind_typeOf?_eq some
      (fun a ha b hb hnames hextension => congrArg some (h a ha b hb hnames hextension))
      hfirst hsecond fileName
    rwa [Option.bind_fun_some, Option.bind_fun_some] at hshown

/-- Entries that stand for one extension of files are sent alike: they give the same media type, or
neither of theirs can be the value of a field. -/
def SentAlike (entries : List (String × String)) : Prop :=
  ∀ a ∈ entries, ∀ b ∈ entries, registeredName a.1 = registeredName b.1 →
    IsExtension (registeredName a.1) →
      a.2 = b.2 ∨ Headers.isValue a.2 = false ∧ Headers.isValue b.2 = false

/-- Two texts show the same as values of a field if they are equal, or if neither can be one. -/
theorem filter_isValue_eq_iff {a b : String} :
    (some a).filter Headers.isValue = (some b).filter Headers.isValue ↔
      a = b ∨ Headers.isValue a = false ∧ Headers.isValue b = false := by
  constructor
  · intro h
    cases ha : Headers.isValue a with
    | true =>
      rw [Option.filter_some_pos ha, eq_comm, Option.filter_eq_some_iff] at h
      exact .inl (Option.some.inj h.1).symm
    | false =>
      rw [Option.filter_some_neg ha, eq_comm, Option.filter_eq_none_iff] at h
      exact .inr ⟨rfl, Bool.eq_false_iff.mpr (h b rfl)⟩
  · rintro (rfl | ⟨ha, hb⟩)
    · rfl
    · rw [Option.filter_some_neg ha, Option.filter_some_neg hb]

/-- Entries that are sent alike let the same be sent for every file, in whatever order they are
registered. -/
theorem SentAlike.filter_typeOf?_eq {entries first second : List (String × String)}
    (h : SentAlike entries) (hfirst : first.Perm entries) (hsecond : second.Perm entries)
    (fileName : String) : ((ofList first).typeOf? fileName).filter Headers.isValue =
      ((ofList second).typeOf? fileName).filter Headers.isValue := by
  rw [← Option.bind_guard, ← Option.bind_guard]
  exact bind_typeOf?_eq _ (fun a ha b hb hnames hextension =>
    filter_isValue_eq_iff.mpr (h a ha b hb hnames hextension)) hfirst hsecond fileName

/-- **When the order of registration does not matter.** The entries of a configuration give every
file the same media type, in whatever order they are registered, exactly if those that stand for
one extension agree; and so do the settings that are made of them. -/
theorem order_irrelevant_iff (r : Config.Resources) :
    ((∀ first second : List (String × String), first.Perm r.mediaTypes → second.Perm r.mediaTypes →
        ∀ fileName, (ofList first).typeOf? fileName = (ofList second).typeOf? fileName) ↔
      Consistent r.mediaTypes) ∧
    ((∀ first second : List (String × String), first.Perm r.mediaTypes → second.Perm r.mediaTypes →
        ∀ fileName,
          (ResourceSettings.ofConfig { r with mediaTypes := first }).mediaTypes.typeOf? fileName =
          (ResourceSettings.ofConfig { r with mediaTypes := second }).mediaTypes.typeOf? fileName) ↔
      Consistent r.mediaTypes) :=
  ⟨forall_perm_typeOf?_eq_iff r.mediaTypes, forall_perm_typeOf?_eq_iff r.mediaTypes⟩

/-- The extension `gif` with a dot in front and without one: the later of the two entries counts,
so the media type hangs on the order. -/
theorem order_matters_gif :
    let entries := [("gif", "image/gif"), (".gif", "image/x-special")]
    (entries.map Prod.fst).Nodup ∧ (∀ e ∈ entries, '/' ∈ e.2.toList) ∧
    (ofList entries).typeOf? "x.gif" = some "image/x-special" ∧
    (ofList entries.reverse).typeOf? "x.gif" = some "image/gif" := by
  decide

end MediaTypes

end WebMount
