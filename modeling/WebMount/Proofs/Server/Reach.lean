import WebMount.Proofs.Config.Validation
import WebMount.Proofs.Request.Uri
import WebMount.Proofs.Server.Assembly
import WebMount.Proofs.Suggest.Address
import WebMount.Server.Dispatch

/-!
# What can be reached

A request is answered by what its path, without parameters, is the url of
(`Server.dispatch_eq_iff`), and some request has a given url as its path exactly if the url is
**requestable** (`Mount.requestable_iff`): it is made of the characters of paths, as nothing in a
path is decoded, it is not too long, and no semicolon in it begins parameters. A configuration that
is accepted may ask for names that are not like this. So its files and suggestion fields can be
reached exactly if their urls are requestable, and the script that pages load is the client script
exactly if moreover no file is shared under its key (`Server.reaches_iff_requestable`).
-/

namespace WebMount

open WebMount.Text

namespace Target

/-- The path of a target below the mount. -/
def relative : Target → String
  | resource scope name => Route.resourceStart ++ scope ++ "/" ++ name
  | suggestions id => Route.suggestionStart ++ id

/-- A target that has a path below the mount. -/
def HasPath : Target → Prop
  | resource scope name => scope ≠ "" ∧ '/' ∉ scope.toList ∧ name ≠ ""
  | suggestions id => id ≠ "" ∧ '/' ∉ id.toList

theorem relative_ne (target : Target) : target.relative ≠ "" := by
  have hresource : Route.resourceStart ≠ "" := by decide
  have hsuggestion : Route.suggestionStart ≠ "" := by decide
  cases target with
  | resource scope name => simp [relative, hresource]
  | suggestions id => simp [relative, hsuggestion]

end Target

namespace Mount

variable {contextPath filterPath path : String}

/-! ### Urls that can be requested -/

/-- Some request asks for the url: it can be the path of a URI, and no parameters begin in it. -/
def Requestable (url : String) : Prop :=
  ';' ∉ url.toList ∧ Uri.IsPath url

instance (url : String) : Decidable (Requestable url) :=
  inferInstanceAs (Decidable (_ ∧ _))

/-- **A url can be requested exactly if some URI has it as its path without parameters.** -/
theorem requestable_iff {url : String} (hhead : url.toList.head? = some '/') :
    Requestable url ↔
      ∃ text uri, Uri.parse? text = some uri ∧ withoutParameters uri.path = url := by
  constructor
  · rintro ⟨hplain, hpath⟩
    exact ⟨url, _, Uri.parse?_of_isPath hhead hpath, withoutParameters_eq_self hplain⟩
  · rintro ⟨text, uri, huri, rfl⟩
    obtain ⟨hchars, hlength⟩ := Uri.isPath_of_parse? huri
    have hstart : (withoutParameters uri.path).toList <+: uri.path.toList := by
      rw [toList_withoutParameters]
      exact List.takeWhile_prefix _
    refine ⟨not_mem_withoutParameters _, Uri.isPath_of_part ?_ hstart.isInfix hlength⟩
    exact List.all_eq_true.mpr fun c hc => List.all_eq_true.mp hchars c (hstart.subset hc)

/-- The url of something below a mount begins with a slash. -/
theorem head?_urlBelow (contextPath filterPath relative : String) :
    (urlBelow (canonicalContextPath contextPath) filterPath relative).toList.head? = some '/' := by
  rw [urlBelow, canonicalContextPath]
  split
  · simp
  · simp

/-! ### What a path leads to -/

/-- A path leads to a target exactly if it is its url, apart from parameters. -/
theorem target?_eq_some_iff_relative {target : Target} :
    target? Route.standard contextPath filterPath path = some target ↔
      target.HasPath ∧
        withoutParameters path = urlBelow contextPath filterPath target.relative := by
  obtain ⟨hresource, hsuggestions⟩ := target?_standard contextPath filterPath path
  cases target with
  | resource scope name => rw [hresource, and_comm]; rfl
  | suggestions id => rw [hsuggestions, and_comm]; rfl

theorem utf8ByteSize_withoutSlash_le (s : String) :
    (withoutSlash s).utf8ByteSize ≤ s.utf8ByteSize := by
  refine utf8ByteSize_le_of_part ?_
  rw [withoutSlash]
  split
  · next stem hstem =>
    rw [String.toList_ofList, dropEnd?_eq_some.mp hstem]
    exact (List.prefix_append _ _).isInfix
  · exact List.infix_rfl

/-- What is below a mount is not the mount itself, so a request for it is not redirected. -/
theorem redirectTarget?_of_below {relative : String} (query : String)
    (hpath : withoutParameters path = urlBelow contextPath filterPath relative)
    (hne : relative ≠ "") : redirectTarget? contextPath filterPath path query = none := by
  have hfilter := utf8ByteSize_withoutSlash_le filterPath
  have hpos : 0 < relative.utf8ByteSize := by
    rw [Nat.pos_iff_ne_zero, Ne, String.utf8ByteSize_eq_zero_iff]
    exact hne
  have hslash : "/".utf8ByteSize = 1 := rfl
  have hlength : (withoutParameters path).utf8ByteSize ≠ homeLength contextPath filterPath := by
    rw [hpath, urlBelow, homeLength, String.utf8ByteSize_append, String.utf8ByteSize_append,
      String.utf8ByteSize_append, hslash]
    split <;> omega
  rw [redirectTarget?]
  exact if_neg fun h => hlength h.1

end Mount

/-- The responder has an answer of its own, and neither redirects nor leaves the request without
one. -/
inductive Responder.HasContent : Responder → Prop where
  | resource (r : Resource) (settings : ResourceSettings) : HasContent (.resource r settings)
  | suggestions (field : SuggestionField) : HasContent (.suggestions field)

namespace Server

open Mount

variable {s : Server} {files : Storage}

/-- The url of a target on a server. -/
def urlOf (s : Server) (files : Storage) (target : Target) : String :=
  urlBelow s.mount.contextPath (s.mount.filterPath files) target.relative

/-- Every request for the URI is answered by the responder, whatever its method and its header
fields are. -/
def AnswersAt (s : Server) (files : Storage) (text : String) (responder : Responder) : Prop :=
  ∃ uri, Uri.parse? text = some uri ∧ ∀ request : Request,
    request.path = uri.path → request.query = uri.query → (s.dispatch files request).1 = responder

/-- The responder answers somewhere. -/
def Reaches (s : Server) (files : Storage) (responder : Responder) : Prop :=
  ∃ text, s.AnswersAt files text responder

/-! ### Who answers a request -/

/-- **A responder answers exactly the requests for the urls of its targets.** -/
theorem dispatch_eq_iff (hroutes : s.routes = Route.standard) {responder : Responder}
    (hcontent : responder.HasContent) (request : Request) :
    (s.dispatch files request).1 = responder ↔
      ∃ target : Target, target.HasPath ∧ s.responderFor (some target) = responder ∧
        withoutParameters request.path = s.urlOf files target := by
  have hbelow : (relativeTo? s.mount.contextPath (s.mount.filterPath files) request.path).bind
      (Route.resolve? s.routes) =
        target? Route.standard s.mount.contextPath (s.mount.filterPath files) request.path := by
    rw [target?, hroutes]
  constructor
  · intro hdispatch
    rw [dispatch] at hdispatch
    dsimp only at hdispatch
    split at hdispatch
    · cases hdispatch ▸ hcontent
    · rw [hbelow] at hdispatch
      cases htarget : target? Route.standard s.mount.contextPath (s.mount.filterPath files)
          request.path with
      | none =>
        rw [htarget] at hdispatch
        cases hdispatch ▸ hcontent
      | some target =>
        rw [htarget] at hdispatch
        obtain ⟨hpath, hurl⟩ := target?_eq_some_iff_relative.mp htarget
        exact ⟨target, hpath, hdispatch, hurl⟩
  · rintro ⟨target, hpath, hresponder, hurl⟩
    have hredirect := redirectTarget?_of_below request.queryText hurl target.relative_ne
    have htarget := target?_eq_some_iff_relative.mpr ⟨hpath, hurl⟩
    rw [dispatch]
    dsimp only
    rw [hredirect, hbelow, htarget]
    exact hresponder

/-- **A responder can be reached exactly if the url of one of its targets is requestable.** -/
theorem reaches_iff (hroutes : s.routes = Route.standard) {contextPath : String}
    (hcontext : s.mount.contextPath = canonicalContextPath contextPath) {responder : Responder}
    (hcontent : responder.HasContent) :
    s.Reaches files responder ↔
      ∃ target : Target, target.HasPath ∧ s.responderFor (some target) = responder ∧
        Requestable (s.urlOf files target) := by
  have hhead : ∀ target, (s.urlOf files target).toList.head? = some '/' := by
    intro target
    rw [urlOf, hcontext]
    exact head?_urlBelow contextPath _ _
  constructor
  · rintro ⟨text, uri, huri, hall⟩
    have hdispatch := hall { path := uri.path, query := uri.query } rfl rfl
    obtain ⟨target, hpath, hresponder, hurl⟩ := (dispatch_eq_iff hroutes hcontent _).mp hdispatch
    exact ⟨target, hpath, hresponder, (requestable_iff (hhead target)).mpr ⟨text, uri, huri, hurl⟩⟩
  · rintro ⟨target, hpath, hresponder, hrequestable⟩
    obtain ⟨text, uri, huri, hurl⟩ := (requestable_iff (hhead target)).mp hrequestable
    refine ⟨text, uri, huri, fun request hrequest _ => ?_⟩
    rw [dispatch_eq_iff hroutes hcontent, hrequest]
    exact ⟨target, hpath, hresponder, hurl⟩

theorem responderFor_eq_resource_iff {target : Target} {r : Resource} :
    s.responderFor (some target) = .resource r s.settings ↔
      ∃ key : ResourceKey,
        target = .resource key.scope key.name ∧ s.resources.get? key = some r := by
  cases target with
  | suggestions id =>
    rw [responderFor]
    constructor
    · intro h
      split at h <;> exact nomatch h
    · rintro ⟨key, htarget, -⟩
      exact nomatch htarget
  | resource scope name =>
    rw [responderFor]
    constructor
    · intro h
      split at h
      · next r' hr' =>
        exact ⟨⟨scope, name⟩, rfl, (Responder.resource.inj h).1 ▸ hr'⟩
      · exact nomatch h
    · rintro ⟨key, htarget, hkey⟩
      obtain ⟨rfl, rfl⟩ := Target.resource.inj htarget
      rw [hkey]

theorem responderFor_eq_suggestions_iff {target : Target} {field : SuggestionField} :
    s.responderFor (some target) = .suggestions field ↔
      ∃ id, target = .suggestions id ∧ s.fields.get? id = some field := by
  cases target with
  | resource scope name =>
    rw [responderFor]
    constructor
    · intro h
      split at h <;> exact nomatch h
    · rintro ⟨id, htarget, -⟩
      exact nomatch htarget
  | suggestions id =>
    rw [responderFor]
    constructor
    · intro h
      split at h
      · next field' hfield' =>
        exact ⟨id, rfl, Responder.suggestions.inj h ▸ hfield'⟩
      · exact nomatch h
    · rintro ⟨id', htarget, hfield⟩
      rw [Target.suggestions.inj htarget, hfield]

/-! ### What a configuration offers -/

section Assembled

variable {c : Config} {start : Time.Instant}

theorem hasPath_of_wellFormed {f : Config.File} (h : f.WellFormed) :
    (Target.resource f.scope f.name).HasPath :=
  ⟨h.scope_ne, h.scope_plain, h.name_ne⟩

theorem hasPath_of_isMarkupId {id : String} (h : Config.isMarkupId id = true) :
    (Target.suggestions id).HasPath := by
  obtain ⟨hne, hchars⟩ := Config.isMarkupId_iff.mp h
  refine ⟨hne, fun hmem => ?_⟩
  exact absurd (hchars '/' hmem) (by decide)

/-- The targets that a file resource answers for are the keys of the files that describe it. -/
theorem responderFor_eq_file_iff (hkeys : c.resources.files.Pairwise fun f g => f.key ≠ g.key)
    {target : Target} {r : FileResource} :
    (assemble c start).responderFor (some target) =
        .resource (.file r) (assemble c start).settings ↔
      ∃ f ∈ c.resources.files, target = .resource f.scope f.name ∧ f.resource = r := by
  rw [responderFor_eq_resource_iff]
  constructor
  · rintro ⟨key, rfl, hkey⟩
    rcases (get?_resourcesOf hkeys start key _).mp hkey with ⟨f, hf, rfl, hr⟩ | ⟨-, -, hr⟩
    · exact ⟨f, hf, rfl, Resource.file.inj hr⟩
    · exact nomatch hr
  · rintro ⟨f, hf, rfl, rfl⟩
    exact ⟨f.key, rfl, (get?_resourcesOf hkeys start f.key _).mpr (.inl ⟨f, hf, rfl, rfl⟩)⟩

/-- The client script answers for its own key unless a file has that. -/
theorem responderFor_eq_script_iff (hkeys : c.resources.files.Pairwise fun f g => f.key ≠ g.key)
    {target : Target} :
    (assemble c start).responderFor (some target) =
        .resource (.bytes (.clientScript start)) (assemble c start).settings ↔
      target = .resource SuggestionField.scriptScope SuggestionField.scriptName ∧
        ∀ f ∈ c.resources.files, f.key ≠ scriptKey := by
  rw [responderFor_eq_resource_iff]
  constructor
  · rintro ⟨key, rfl, hkey⟩
    rcases (get?_resourcesOf hkeys start key _).mp hkey with ⟨f, -, -, hr⟩ | ⟨hfree, rfl, -⟩
    · exact nomatch hr
    · exact ⟨rfl, hfree⟩
  · rintro ⟨rfl, hfree⟩
    exact ⟨scriptKey, rfl, (get?_resourcesOf hkeys start _ _).mpr (.inr ⟨hfree, rfl, rfl⟩)⟩

/-- A suggestion field answers for its id. -/
theorem responderFor_eq_field_iff (hids : c.suggestions.Pairwise fun d e => d.id ≠ e.id)
    {target : Target} {d : Config.Suggestions} (hd : d ∈ c.suggestions) :
    (assemble c start).responderFor (some target) = .suggestions d.field ↔
      target = .suggestions d.id := by
  rw [responderFor_eq_suggestions_iff]
  constructor
  · rintro ⟨id, rfl, hid⟩
    obtain ⟨e, -, rfl, hfield⟩ := (SuggestionFields.get?_ofList hids id _).mp hid
    exact congrArg Target.suggestions (congrArg SuggestionField.id hfield)
  · rintro rfl
    exact ⟨d.id, rfl, (SuggestionFields.get?_ofList hids d.id _).mpr ⟨d, hd, rfl, rfl⟩⟩

theorem reaches_file_iff (hfiles : ∀ f ∈ c.resources.files, f.WellFormed)
    (hkeys : c.resources.files.Pairwise fun f g => f.key ≠ g.key) (files : Storage)
    (r : FileResource) :
    (assemble c start).Reaches files (.resource (.file r) (assemble c start).settings) ↔
      ∃ f ∈ c.resources.files, f.resource = r ∧
        Requestable ((assemble c start).urlOf files (.resource f.scope f.name)) := by
  rw [reaches_iff rfl rfl (.resource _ _)]
  simp only [responderFor_eq_file_iff hkeys]
  constructor
  · rintro ⟨target, -, ⟨f, hf, rfl, hr⟩, hrequestable⟩
    exact ⟨f, hf, hr, hrequestable⟩
  · rintro ⟨f, hf, hr, hrequestable⟩
    exact ⟨_, hasPath_of_wellFormed (hfiles f hf), ⟨f, hf, rfl, hr⟩, hrequestable⟩

theorem reaches_field_iff (hids : c.suggestions.Pairwise fun d e => d.id ≠ e.id)
    {d : Config.Suggestions} (hd : d ∈ c.suggestions) (hpath : (Target.suggestions d.id).HasPath)
    (files : Storage) :
    (assemble c start).Reaches files (.suggestions d.field) ↔
      Requestable ((assemble c start).urlOf files (.suggestions d.id)) := by
  rw [reaches_iff rfl rfl (.suggestions _)]
  simp only [responderFor_eq_field_iff hids hd]
  constructor
  · rintro ⟨target, -, rfl, hrequestable⟩
    exact hrequestable
  · intro hrequestable
    exact ⟨_, hpath, rfl, hrequestable⟩

/-- The key of the client script has a path below the mount. -/
theorem hasPath_script :
    (Target.resource SuggestionField.scriptScope SuggestionField.scriptName).HasPath :=
  ⟨by decide, by decide, by decide⟩

theorem answersAt_script_iff (hkeys : c.resources.files.Pairwise fun f g => f.key ≠ g.key)
    (files : Storage) :
    let s := assemble c start
    let src := s.urlOf files (.resource SuggestionField.scriptScope SuggestionField.scriptName)
    s.AnswersAt files src (.resource (.bytes (.clientScript start)) s.settings) ↔
      Requestable src ∧ ∀ f ∈ c.resources.files, f.key ≠ scriptKey := by
  intro s src
  constructor
  · intro hanswers
    obtain ⟨target, -, hresponder, hrequestable⟩ :=
      (reaches_iff (s := s) rfl rfl (.resource _ _)).mp ⟨src, hanswers⟩
    obtain ⟨rfl, hfree⟩ := (responderFor_eq_script_iff hkeys).mp hresponder
    exact ⟨hrequestable, hfree⟩
  · rintro ⟨⟨hplain, hpath⟩, hfree⟩
    have hhead : src.toList.head? = some '/' := head?_urlBelow _ _ _
    refine ⟨_, Uri.parse?_of_isPath hhead hpath, fun request hrequest _ => ?_⟩
    refine (dispatch_eq_iff rfl (.resource _ _) request).mpr ⟨_, hasPath_script,
      (responderFor_eq_script_iff hkeys).mpr ⟨rfl, hfree⟩, ?_⟩
    rw [hrequest]
    exact withoutParameters_eq_self hplain

end Assembled

/-- **What an accepted configuration offers can be reached exactly as far as its urls are
requestable.** A request for the url of a file is answered by the resource that the file describes,
and by that of no other file; some request is for it exactly if its url, or that of a file that
describes the same resource, is requestable. The same holds of the suggestion fields, no two of
which are the same. A reader of the element in the head of a page finds the url of the client
script, which is answered with that script exactly if it is requestable and no file is shared under
its key. -/
theorem reaches_iff_requestable {c : Config} (h : c.findings = []) (start : Time.Instant)
    (files : Storage) :
    let s := assemble c start
    let fileUrl (f : Config.File) := s.urlOf files (.resource f.scope f.name)
    let fieldUrl (d : Config.Suggestions) := s.urlOf files (.suggestions d.id)
    let script : Responder := .resource (.bytes (.clientScript start)) s.settings
    (∀ f ∈ c.resources.files,
      let file : Responder := .resource (.file f.resource) s.settings
      (∀ request : Request, withoutParameters request.path = fileUrl f →
        (s.dispatch files request).1 = file) ∧
      (s.Reaches files file ↔
        ∃ g ∈ c.resources.files, g.resource = f.resource ∧ Requestable (fileUrl g))) ∧
    (∀ d ∈ c.suggestions,
      (∀ request : Request, withoutParameters request.path = fieldUrl d →
        (s.dispatch files request).1 = .suggestions d.field) ∧
      (s.Reaches files (.suggestions d.field) ↔ Requestable (fieldUrl d))) ∧
    ∃ src, Markup.attribute? "src" (SuggestionField.headMarkup s.mount.contextPath
        (s.mount.filterPath files)) = some src ∧
      (s.AnswersAt files src script ↔
        Requestable src ∧ ∀ f ∈ c.resources.files, f.key ≠ scriptKey) := by
  obtain ⟨hfindings, hsuggestions⟩ := Config.parts_of_accepted h
  obtain ⟨hfiles, hkeys⟩ := Config.files_accepted_iff.mp hfindings
  obtain ⟨hfields, hids⟩ := Config.suggestions_accepted_iff.mp hsuggestions
  refine ⟨fun f hf => ⟨fun request hurl => ?_, reaches_file_iff hfiles hkeys files f.resource⟩,
    fun d hd => ?_, ?_⟩
  · exact (dispatch_eq_iff rfl (.resource _ _) request).mpr ⟨_, hasPath_of_wellFormed (hfiles f hf),
      (responderFor_eq_file_iff hkeys).mpr ⟨f, hf, rfl, rfl⟩, hurl⟩
  · have hpath := hasPath_of_isMarkupId (hfields d hd).isMarkupId
    refine ⟨fun request hurl => ?_, reaches_field_iff hids hd hpath files⟩
    exact (dispatch_eq_iff rfl (.suggestions _) request).mpr
      ⟨_, hpath, (responderFor_eq_field_iff hids hd).mpr rfl, hurl⟩
  · exact ⟨_, SuggestionField.src_headMarkup _ _, answersAt_script_iff hkeys files⟩

/-- Below a mount, a file in a folder is reached, and so are the suggestions for cities and the
client script; a file with a blank in its name is not. -/
theorem reaches_iff_requestable_docs :
    let folder : Config.File := { scope := "docs", name := "a/b.txt", path := "docs/b.txt" }
    let blank : Config.File := { scope := "docs", name := "c d.txt", path := "docs/d.txt" }
    let city : Config.Suggestions := { id := "city", choices := ["Oslo"], limit := 1 }
    let c : Config := { filter := { contextPath := "/ctx", path := some "shop" },
                        resources := { files := [folder, blank] }, suggestions := [city] }
    let s := assemble c .epoch
    c.findings = [] ∧ s.Reaches {} (.resource (.file folder.resource) s.settings) ∧
      ¬ s.Reaches {} (.resource (.file blank.resource) s.settings) ∧
      s.Reaches {} (.suggestions city.field) ∧
      s.AnswersAt {} "/ctx/shop/wicket/resource/autocomplete/wicket-autocomplete.js"
        (.resource (.bytes (.clientScript .epoch)) s.settings) := by
  intro folder blank city c s
  have haccepted : c.findings = [] := by decide +kernel
  obtain ⟨hfiles, hfields, src, hsrc, hscript⟩ := reaches_iff_requestable haccepted .epoch {}
  refine ⟨haccepted, ?_, ?_, ?_, ?_⟩
  · exact (hfiles folder List.mem_cons_self).2.mpr
      ⟨folder, List.mem_cons_self, rfl, by decide +kernel⟩
  · intro hreaches
    obtain ⟨g, hg, hresource, hrequestable⟩ :=
      (hfiles blank (List.mem_cons_of_mem _ List.mem_cons_self)).2.mp hreaches
    rcases List.mem_cons.mp hg with rfl | hg
    · exact absurd (congrArg FileResource.path hresource) (by decide)
    · obtain rfl := List.mem_singleton.mp hg
      exact absurd hrequestable (by decide +kernel)
  · exact (hfields city List.mem_cons_self).2.mpr (by decide +kernel)
  · have hurl : Markup.attribute? "src" (SuggestionField.headMarkup s.mount.contextPath
        (s.mount.filterPath {})) =
        some "/ctx/shop/wicket/resource/autocomplete/wicket-autocomplete.js" := by
      decide +kernel
    obtain rfl := Option.some.inj (hsrc.symm.trans hurl)
    exact hscript.mpr ⟨by decide +kernel, by decide +kernel⟩

/-- A file with a semicolon in its name is never served, and a file with the name of the client
script takes its place, though both are accepted. -/
theorem accepted_not_reached :
    let semicolon : Config.File := { name := "a;b.txt", path := "b.txt" }
    let script : Config.File :=
      { scope := "autocomplete", name := "wicket-autocomplete.js", path := "b.js" }
    let c : Config := { resources := { files := [semicolon, script] } }
    c.findings = [] ∧ ∀ (start : Time.Instant) (files : Storage) (request : Request),
      let s := assemble c start
      (s.dispatch files request).1 ≠ .resource (.file semicolon.resource) s.settings ∧
        (s.dispatch files request).1 ≠ .resource (.bytes (.clientScript start)) s.settings := by
  intro semicolon script c
  have haccepted : c.findings = [] := by decide +kernel
  have hkeys := (Config.files_accepted_iff.mp (Config.parts_of_accepted haccepted).1).2
  refine ⟨haccepted, ?_⟩
  intro start files request s
  refine ⟨fun hdispatch => ?_, fun hdispatch => ?_⟩
  · obtain ⟨target, -, hresponder, hurl⟩ :=
      (dispatch_eq_iff rfl (.resource _ _) request).mp hdispatch
    obtain ⟨f, hf, rfl, hresource⟩ := (responderFor_eq_file_iff hkeys).mp hresponder
    rcases List.mem_cons.mp hf with rfl | hf
    · have hmem : ';' ∈ semicolon.name.toList := by decide
      have hplain := not_mem_withoutParameters request.path
      rw [hurl, urlOf, urlBelow, Target.relative] at hplain
      simp only [String.toList_append, List.mem_append, hmem, or_true, not_true] at hplain
    · obtain rfl := List.mem_singleton.mp hf
      exact absurd (congrArg FileResource.path hresource) (by decide)
  · obtain ⟨target, -, hresponder, -⟩ := (dispatch_eq_iff rfl (.resource _ _) request).mp hdispatch
    have hfree := ((responderFor_eq_script_iff hkeys).mp hresponder).2
    exact hfree script (List.mem_cons_of_mem _ List.mem_cons_self) rfl

end Server

end WebMount
