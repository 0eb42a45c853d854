import WebMount.Proofs.Text.Slice
import WebMount.Suggest.Field

/-!
# Addresses below a mount

A target is **addressed** by a path in a family of routes if the path is put together as the family
says. Routing finds a target exactly if the path addresses it (`Route.match?_eq_some_iff`), and as
long as no path can be taken by two families, their order does not matter
(`Route.resolve?_of_perm`). Taking a request path apart at the mount undoes putting a url together
(`Mount.relativeTo?_eq_some_iff`), so urls and targets are inverse to each other through the mount.
-/

namespace WebMount

open WebMount.Text

namespace Route

/-! ### One family -/

/-- The path addresses the target in a family: no part is empty, and the slashes of the path tell
where its parts end. -/
inductive Addresses : Route → String → Target → Prop where
  | resource {start scope name : String} (hscope : scope ≠ "") (hslash : '/' ∉ scope.toList)
    (hname : name ≠ "") :
    Addresses (.resources start) (start ++ scope ++ "/" ++ name) (.resource scope name)
  | suggestions {start id : String} (hid : id ≠ "") (hslash : '/' ∉ id.toList) :
    Addresses (.suggestions start) (start ++ id) (.suggestions id)

/-- **A family finds what the path addresses in it, and nothing else.** -/
theorem match?_eq_some_iff {route : Route} {path : String} {target : Target} :
    route.match? path = some target ↔ route.Addresses path target := by
  have hofList : ∀ {l : List Char}, String.ofList l ≠ "" ↔ l ≠ [] := by
    intro l
    rw [Ne, ← String.toList_inj, String.toList_ofList]
    rfl
  constructor
  · intro h
    cases route with
    | resources start =>
      simp only [match?, Option.bind_eq_bind, Option.bind_eq_some_iff, Option.ite_none_left_eq_some,
        Option.some.injEq] at h
      obtain ⟨rest, hrest, ⟨scope, name⟩, hcut, hparts, rfl⟩ := h
      rw [dropStart?_eq_some] at hrest
      obtain ⟨rfl, hslash⟩ := splitFirst?_eq_some hcut
      rw [not_or] at hparts
      have hpath : path = start ++ String.ofList scope ++ "/" ++ String.ofList name := by
        rw [← String.toList_inj, hrest]
        simp
      rw [hpath]
      exact .resource (hofList.mpr hparts.1) (by rwa [String.toList_ofList]) (hofList.mpr hparts.2)
    | suggestions start =>
      simp only [match?, Option.bind_eq_bind, Option.bind_eq_some_iff, Option.ite_none_left_eq_some,
        Option.some.injEq] at h
      obtain ⟨id, hrest, hparts, rfl⟩ := h
      rw [dropStart?_eq_some] at hrest
      rw [not_or] at hparts
      have hpath : path = start ++ String.ofList id := by
        rw [← String.toList_inj, hrest]
        simp
      rw [hpath]
      exact .suggestions (hofList.mpr hparts.1) (by rw [String.toList_ofList]; exact hparts.2)
  · have htoList : ∀ {s : String}, s ≠ "" → s.toList ≠ [] := by
      intro s hs hnil
      exact hs (String.toList_inj.mp hnil)
    rintro (⟨hscope, hslash, hname⟩ | ⟨hid, hslash⟩)
    · simp [match?, dropStart?_append, splitFirst?_append, hslash, hscope, hname]
    · simp [match?, dropStart?_append, hslash, hid]

/-- The text that all addresses of a family begin with. -/
def start : Route → String
  | resources start => start
  | suggestions start => start

theorem Addresses.begins {route : Route} {path : String} {target : Target}
    (h : route.Addresses path target) : route.start.toList <+: path.toList := by
  cases h with
  | resource =>
    rw [start, String.append_assoc, String.append_assoc, String.toList_append]
    exact List.prefix_append _ _
  | suggestions =>
    rw [start, String.toList_append]
    exact List.prefix_append _ _

/-! ### Several families -/

/-- No path is taken by two of the families. -/
def Apart (routes : List Route) : Prop :=
  routes.Pairwise fun a b => ∀ path, a.match? path = none ∨ b.match? path = none

/-- Families that begin with texts of which neither begins with the other take no path together. -/
theorem apart_of_start {a b : Route} (hab : ¬a.start.toList <+: b.start.toList)
    (hba : ¬b.start.toList <+: a.start.toList) (path : String) :
    a.match? path = none ∨ b.match? path = none := by
  cases ha : a.match? path with
  | none => exact .inl rfl
  | some s =>
    cases hb : b.match? path with
    | none => exact .inr rfl
    | some t =>
      have hs := (match?_eq_some_iff.mp ha).begins
      have ht := (match?_eq_some_iff.mp hb).begins
      -- of two beginnings of one path the shorter one begins the longer one
      rcases List.prefix_or_prefix_of_prefix hs ht with h | h
      · exact absurd h hab
      · exact absurd h hba

theorem standard_apart : Apart standard := by
  have hresources : ¬resourceStart.toList <+: suggestionStart.toList := by decide
  have hsuggestions : ¬suggestionStart.toList <+: resourceStart.toList := by decide
  exact List.pairwise_pair.mpr (apart_of_start hresources hsuggestions)

/-- Families that are apart find what any of them finds. -/
theorem resolve?_eq_some_iff {routes : List Route} (h : Apart routes) {path : String}
    {target : Target} :
    resolve? routes path = some target ↔ ∃ route ∈ routes, route.match? path = some target := by
  induction routes with
  | nil => simp [resolve?]
  | cons route routes ih =>
    obtain ⟨hroute, hroutes⟩ := List.pairwise_cons.mp h
    have hrest := ih hroutes
    rw [resolve?] at hrest
    rw [resolve?, List.findSome?_cons]
    cases hfirst : route.match? path with
    | none => simp [hfirst, hrest]
    | some first =>
      have hothers : ∀ other ∈ routes, other.match? path ≠ some target := by
        intro other hother hsome
        rcases hroute other hother path with hnone | hnone
        · exact absurd (hfirst.symm.trans hnone) (by simp)
        · exact absurd (hsome.symm.trans hnone) (by simp)
      constructor
      · intro hsome
        exact ⟨route, List.mem_cons_self, hfirst.trans hsome⟩
      · rintro ⟨other, hmem, hsome⟩
        rcases List.mem_cons.mp hmem with rfl | hmem
        · exact hfirst.symm.trans hsome
        · exact absurd hsome (hothers other hmem)

/-- **The order of families that are apart does not matter.** -/
theorem resolve?_of_perm {routes others : List Route} (h : Apart routes)
    (hperm : others.Perm routes) (path : String) :
    resolve? others path = resolve? routes path := by
  have hothers : Apart others :=
    (hperm.pairwise_iff fun hab path => (hab path).symm).mpr h
  refine Option.ext fun target => ?_
  rw [resolve?_eq_some_iff h, resolve?_eq_some_iff hothers]
  simp only [hperm.mem_iff]

end Route

namespace Mount

/-! ### The mount -/

/-- **Taking a path apart at the mount undoes putting a url together.** -/
theorem relativeTo?_eq_some_iff {contextPath filterPath path relative : String} :
    relativeTo? contextPath filterPath path = some relative ↔
      withoutParameters path = urlBelow contextPath filterPath relative := by
  have hslash : "/".toList = ['/'] := rfl
  simp only [relativeTo?, Option.bind_eq_bind, Option.bind_eq_some_iff, dropStart?_eq_some,
    Option.pure_def, Option.some.injEq]
  rw [← String.toList_inj, urlBelow]
  simp only [String.toList_append, hslash, List.append_assoc]
  constructor
  · rintro ⟨_, hcontext, _, rfl, rest, rfl, rfl⟩
    rw [hcontext, String.toList_ofList]
  · intro h
    exact ⟨_, h, _, rfl, _, rfl, String.ofList_toList⟩

/-- What a request path addresses: its part below the mount is routed. -/
def target? (routes : List Route) (contextPath filterPath path : String) : Option Target :=
  (relativeTo? contextPath filterPath path).bind (Route.resolve? routes)

/-- A request path addresses a target exactly if its url is the one of a path that does. -/
theorem target?_eq_some_iff {routes : List Route} (h : Route.Apart routes)
    {contextPath filterPath path : String} {target : Target} :
    target? routes contextPath filterPath path = some target ↔
      ∃ route ∈ routes, ∃ relative, route.Addresses relative target ∧
        withoutParameters path = urlBelow contextPath filterPath relative := by
  simp only [target?, Option.bind_eq_some_iff, relativeTo?_eq_some_iff,
    Route.resolve?_eq_some_iff h, Route.match?_eq_some_iff]
  constructor
  · rintro ⟨relative, hurl, route, hroute, haddress⟩
    exact ⟨route, hroute, relative, haddress, hurl⟩
  · rintro ⟨route, hroute, relative, haddress, hurl⟩
    exact ⟨relative, hurl, route, hroute, haddress⟩

theorem toList_withoutParameters (path : String) :
    (withoutParameters path).toList = path.toList.takeWhile (· ≠ ';') := by
  rw [withoutParameters, String.toList_ofList, upTo]

/-- No semicolon is left of a path without its parameters. -/
theorem not_mem_withoutParameters (path : String) : ';' ∉ (withoutParameters path).toList := by
  rw [withoutParameters, String.toList_ofList]
  exact not_mem_upTo ';' path.toList

/-- A path without a semicolon has no parameters. -/
theorem withoutParameters_eq_self {path : String} (h : ';' ∉ path.toList) :
    withoutParameters path = path := by
  rw [withoutParameters, upTo_eq_self h, String.ofList_toList]

/-- The url of an address leads to what the address is for. -/
theorem target?_urlBelow {contextPath filterPath relative : String} {route : Route}
    {target : Target} (hroute : route ∈ Route.standard) (haddress : route.Addresses relative target)
    (h : ∀ text ∈ [contextPath, filterPath, relative], ';' ∉ text.toList) :
    target? Route.standard contextPath filterPath (urlBelow contextPath filterPath relative) =
      some target := by
  simp only [List.forall_mem_cons, List.not_mem_nil, false_implies, implies_true, and_true] at h
  obtain ⟨hcontext, hfilter, hrelative⟩ := h
  have hplain : ';' ∉ (urlBelow contextPath filterPath relative).toList := by
    have hslash : ';' ∉ "/".toList := by decide
    simp only [urlBelow, String.toList_append, List.mem_append, hcontext, hslash, hfilter,
      hrelative, or_self, not_false_eq_true]
  rw [target?_eq_some_iff Route.standard_apart]
  exact ⟨route, hroute, relative, haddress, withoutParameters_eq_self hplain⟩

end Mount

end WebMount
