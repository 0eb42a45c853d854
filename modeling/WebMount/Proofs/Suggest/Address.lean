import WebMount.Proofs.Markup.Attribute
import WebMount.Proofs.Mount.Address

/-!
# Urls and targets are inverse to each other

The path of a request, without its parameters, is the url of a target exactly if the request
addresses that target; a path that is no such url addresses nothing (`addressed_iff_url`). The
urls that a suggestion field writes into a page are among these: the one of its suggestions, and
the one of the client script, which a reader of the markup finds in the head of the page
(`src_headMarkup`).
-/

namespace WebMount

open WebMount.Text

namespace SuggestionField

/-- A reader of the element that loads the client script finds the url of the script. -/
theorem src_headMarkup (contextPath filterPath : String) :
    Markup.attribute? "src" (headMarkup contextPath filterPath) =
      some (Mount.urlBelow contextPath filterPath scriptAddress) := by
  have hbehind : Markup.behind? (' ' :: "src".toList ++ ['=', '"'])
      "<script type=\"text/javascript\" src=\"".toList = some [] := by decide
  exact Markup.attribute?_escape hbehind _ "></script>"

end SuggestionField

namespace Mount

variable {contextPath filterPath : String}

/-- The url of the suggestions leads to the field. -/
theorem target?_callbackUrl {field : SuggestionField} (hid : field.id ≠ "")
    (hslash : '/' ∉ field.id.toList)
    (h : ∀ text ∈ [contextPath, filterPath, field.id], ';' ∉ text.toList) :
    target? Route.standard contextPath filterPath (field.callbackUrl contextPath filterPath) =
      some (.suggestions field.id) := by
  have hstart : ';' ∉ Route.suggestionStart.toList := by decide
  refine target?_urlBelow (List.mem_cons_of_mem _ List.mem_cons_self) (.suggestions hid hslash) ?_
  simp only [List.forall_mem_cons, List.not_mem_nil, false_implies, implies_true, and_true] at h ⊢
  obtain ⟨hcontext, hfilter, hid⟩ := h
  refine ⟨hcontext, hfilter, ?_⟩
  rw [SuggestionField.relativeAddress, String.toList_append, List.mem_append, not_or]
  exact ⟨hstart, hid⟩

/-- The url of the client script leads to the script. -/
theorem target?_script (h : ∀ text ∈ [contextPath, filterPath], ';' ∉ text.toList) :
    target? Route.standard contextPath filterPath
        (urlBelow contextPath filterPath SuggestionField.scriptAddress) =
      some (.resource SuggestionField.scriptScope SuggestionField.scriptName) := by
  have hplain : ';' ∉ SuggestionField.scriptAddress.toList := by decide
  refine target?_urlBelow List.mem_cons_self
    (.resource (by decide) (by decide) (by decide)) ?_
  simp only [List.forall_mem_cons, List.not_mem_nil, false_implies, implies_true, and_true] at h ⊢
  exact ⟨h.1, h.2, hplain⟩

/-- The urls of the two families. -/
theorem target?_standard (contextPath filterPath path : String) :
    (∀ scope name, target? Route.standard contextPath filterPath path =
        some (.resource scope name) ↔
      withoutParameters path = urlBelow contextPath filterPath
          (Route.resourceStart ++ scope ++ "/" ++ name) ∧
        scope ≠ "" ∧ '/' ∉ scope.toList ∧ name ≠ "") ∧
    ∀ id, target? Route.standard contextPath filterPath path = some (.suggestions id) ↔
      withoutParameters path = urlBelow contextPath filterPath (Route.suggestionStart ++ id) ∧
        id ≠ "" ∧ '/' ∉ id.toList := by
  constructor
  · intro scope name
    rw [target?_eq_some_iff Route.standard_apart]
    constructor
    · rintro ⟨route, hroute, relative, haddress, hurl⟩
      cases haddress with
      | resource hscope hslash hname =>
        simp only [Route.standard, List.mem_cons, Route.resources.injEq, reduceCtorEq,
          List.not_mem_nil, or_false] at hroute
        subst hroute
        exact ⟨hurl, hscope, hslash, hname⟩
    · rintro ⟨hurl, hscope, hslash, hname⟩
      exact ⟨_, List.mem_cons_self, _, .resource hscope hslash hname, hurl⟩
  · intro id
    rw [target?_eq_some_iff Route.standard_apart]
    constructor
    · rintro ⟨route, hroute, relative, haddress, hurl⟩
      cases haddress with
      | suggestions hid hslash =>
        simp only [Route.standard, List.mem_cons, Route.suggestions.injEq, reduceCtorEq,
          List.not_mem_nil, or_false, false_or] at hroute
        subst hroute
        exact ⟨hurl, hid, hslash⟩
    · rintro ⟨hurl, hid, hslash⟩
      exact ⟨_, List.mem_cons_of_mem _ List.mem_cons_self, _, .suggestions hid hslash, hurl⟩

/-- **Urls and targets are inverse to each other through the mount.** A request path, without its
parameters, addresses a shared resource or a suggestion field exactly if it is the url of that
target, and nothing in all other cases. No path below the mount has two targets, so the order of
the two families does not matter. The urls that a suggestion field writes into a page lead to its
suggestions and to the client script, as long as no semicolon begins parameters in them. -/
theorem addressed_iff_url (contextPath filterPath path : String) :
    (∀ scope name, target? Route.standard contextPath filterPath path =
        some (.resource scope name) ↔
      withoutParameters path =
          urlBelow contextPath filterPath ("wicket/resource/" ++ scope ++ "/" ++ name) ∧
        scope ≠ "" ∧ '/' ∉ scope.toList ∧ name ≠ "") ∧
    (∀ id, target? Route.standard contextPath filterPath path = some (.suggestions id) ↔
      withoutParameters path = urlBelow contextPath filterPath ("wicket/autocomplete/" ++ id) ∧
        id ≠ "" ∧ '/' ∉ id.toList) ∧
    (target? Route.standard contextPath filterPath path = none ↔
      (∀ scope name, scope ≠ "" → '/' ∉ scope.toList → name ≠ "" → withoutParameters path ≠
        urlBelow contextPath filterPath ("wicket/resource/" ++ scope ++ "/" ++ name)) ∧
      ∀ id, id ≠ "" → '/' ∉ id.toList → withoutParameters path ≠
        urlBelow contextPath filterPath ("wicket/autocomplete/" ++ id)) ∧
    (∀ first ∈ Route.standard, ∀ second ∈ Route.standard, ∀ relative target other,
      first.match? relative = some target → second.match? relative = some other →
        target = other) ∧
    (∀ routes : List Route, routes.Perm Route.standard →
      target? routes contextPath filterPath path =
        target? Route.standard contextPath filterPath path) ∧
    (∀ field : SuggestionField, field.id ≠ "" → '/' ∉ field.id.toList →
      (∀ text ∈ [contextPath, filterPath, field.id], ';' ∉ text.toList) →
      target? Route.standard contextPath filterPath (field.callbackUrl contextPath filterPath) =
        some (.suggestions field.id)) ∧
    ((∀ text ∈ [contextPath, filterPath], ';' ∉ text.toList) → ∃ src,
      Markup.attribute? "src" (SuggestionField.headMarkup contextPath filterPath) = some src ∧
      target? Route.standard contextPath filterPath src =
        some (.resource SuggestionField.scriptScope SuggestionField.scriptName)) := by
  obtain ⟨hresource, hsuggestions⟩ := target?_standard contextPath filterPath path
  refine ⟨hresource, hsuggestions, ?_, ?_, ?_, fun field => target?_callbackUrl, ?_⟩
  · constructor
    · intro hnone
      refine ⟨fun scope name hscope hslash hname hurl => ?_, fun id hid hslash hurl => ?_⟩
      · have hsome := (hresource scope name).mpr ⟨hurl, hscope, hslash, hname⟩
        exact absurd (hnone.symm.trans hsome) (by simp)
      · have hsome := (hsuggestions id).mpr ⟨hurl, hid, hslash⟩
        exact absurd (hnone.symm.trans hsome) (by simp)
    · rintro ⟨hnoResource, hnoSuggestions⟩
      refine Option.eq_none_iff_forall_ne_some.mpr fun target hsome => ?_
      cases target with
      | resource scope name =>
        obtain ⟨hurl, hscope, hslash, hname⟩ := (hresource scope name).mp hsome
        exact hnoResource scope name hscope hslash hname hurl
      | suggestions id =>
        obtain ⟨hurl, hid, hslash⟩ := (hsuggestions id).mp hsome
        exact hnoSuggestions id hid hslash hurl
  · intro first hfirst second hsecond relative target other htarget hother
    have hfound : ∀ target, Route.resolve? Route.standard relative = some target ↔
        ∃ route ∈ Route.standard, route.match? relative = some target :=
      fun _ => Route.resolve?_eq_some_iff Route.standard_apart
    have htarget := (hfound target).mpr ⟨first, hfirst, htarget⟩
    have hother := (hfound other).mpr ⟨second, hsecond, hother⟩
    exact Option.some.inj (htarget.symm.trans hother)
  · intro routes hperm
    rw [target?, target?]
    exact congrArg _ (funext (Route.resolve?_of_perm Route.standard_apart hperm))
  · intro h
    exact ⟨_, SuggestionField.src_headMarkup contextPath filterPath, target?_script h⟩

/-- Below a mount that is named like the beginning of an address, the name of a resource may hold
slashes, parameters behind a semicolon do not count, and the field for cities is found. -/
theorem addressed_iff_url_nested :
    let city : SuggestionField := { id := "city", source := .fixed ["Oslo"] 1 }
    target? Route.standard "/wicket" "resource/" "/wicket/resource/wicket/resource/a/b/c;x=1" =
      some (.resource "a" "b/c") ∧
    target? Route.standard "/wicket" "resource/" (city.callbackUrl "/wicket" "resource/") =
      some (.suggestions "city") := by
  intro city
  obtain ⟨hresource, -, -, -, -, hcallback, -⟩ :=
    addressed_iff_url "/wicket" "resource/" "/wicket/resource/wicket/resource/a/b/c;x=1"
  exact ⟨(hresource "a" "b/c").mpr (by decide),
    hcallback city (by decide) (by decide) (by decide)⟩

end Mount

end WebMount
