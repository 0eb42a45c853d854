import WebMount.Proofs.Mount.Address

/-!
# The redirect from the mount to its inside

A request for the mount itself, without a slash at the end, is sent on to the same path with a
slash. The path of the mount is put together in one way and its length in another, and both agree
with the **entrance**, the context path followed by the name of the mount below it (`home_path`,
`homeLength_path`). So the length never decides (`redirectTarget?_path`). The entrance is outside
the mount, since what is below the mount has one more slash (`entrance_ne_urlBelow`), and with that
slash it is the url of the empty path (`entrance_append_slash`): the redirect leads inside at once.
-/

namespace WebMount.Mount

open WebMount.Text

/-- The name of a mount below its context: a filter path without the slash at its end. -/
structure Stem where
  text : String
  ne_empty : text ≠ ""
  head_ne : text.toList.head? ≠ some '/'
  last_ne : text.toList.getLast? ≠ some '/'

namespace Stem

/-- The filter path of a mount with the name, or at the root of the context. -/
def path : Option Stem → String
  | none => ""
  | some stem => stem.text ++ "/"

/-- The path of a mount with the name, or of the context. -/
def entrance (contextPath : String) : Option Stem → String
  | none => contextPath
  | some stem => contextPath ++ "/" ++ stem.text

end Stem

open Stem

variable (contextPath : String) (place : Option Stem)

/-! ### The entrance -/

theorem withoutSlash_append (s : String) : withoutSlash (s ++ "/") = s := by
  have hdrop : dropEnd? ['/'] (s ++ "/").toList = some s.toList :=
    dropEnd?_eq_some.mpr (by rw [String.toList_append]; rfl)
  rw [withoutSlash, hdrop]
  exact String.ofList_toList

theorem withoutSlash_eq_self {s : String} (h : s.toList.getLast? ≠ some '/') :
    withoutSlash s = s := by
  rw [withoutSlash]
  split
  · next stem hstem => exact absurd (by rw [dropEnd?_eq_some.mp hstem]; simp) h
  · rfl

theorem withoutSlash_path : withoutSlash (path place) = (place.map text).getD "" := by
  cases place with
  | none => rfl
  | some stem => exact withoutSlash_append stem.text

/-- The path of the mount is the entrance: of the slash that is put behind the context path just
as much is left as is needed. -/
theorem home_path : home contextPath (path place) = entrance contextPath place := by
  rw [home, withoutSlash_path]
  cases place with
  | none =>
    rw [Option.map_none, Option.getD_none, String.append_empty, withoutSlash_append]
    rfl
  | some stem =>
    have hlast : (contextPath ++ "/" ++ stem.text).toList.getLast? ≠ some '/' := by
      have hne : stem.text.toList ≠ [] := fun hnil => stem.ne_empty (String.toList_inj.mp hnil)
      rw [String.toList_append, List.getLast?_append, List.getLast?_eq_some_getLast hne,
        Option.some_or, ← List.getLast?_eq_some_getLast hne]
      exact stem.last_ne
    rw [Option.map_some, Option.getD_some, withoutSlash_eq_self hlast]
    rfl

/-- The length asked for is that of the entrance. -/
theorem homeLength_path :
    homeLength contextPath (path place) = (entrance contextPath place).utf8ByteSize := by
  rw [homeLength, withoutSlash_path]
  cases place with
  | none => rfl
  | some stem =>
    have hpos : 0 < stem.text.utf8ByteSize := by
      rw [Nat.pos_iff_ne_zero, Ne, String.utf8ByteSize_eq_zero_iff]
      exact stem.ne_empty
    have hslash : "/".utf8ByteSize = 1 := rfl
    rw [Option.map_some, Option.getD_some, if_pos hpos, entrance, String.utf8ByteSize_append,
      String.utf8ByteSize_append, hslash]
    omega

/-- **A request is redirected exactly if its path is the entrance.** -/
theorem redirectTarget?_path (requestPath query : String) :
    redirectTarget? contextPath (path place) requestPath query =
      if withoutParameters requestPath = entrance contextPath place then
        some (withoutParameters requestPath ++ "/" ++ if query = "" then "" else "?" ++ query)
      else none := by
  rw [redirectTarget?, home_path, homeLength_path]
  by_cases h : withoutParameters requestPath = entrance contextPath place
  · rw [if_pos ⟨by rw [h], h⟩, if_pos h]
  · rw [if_neg fun both => h both.2, if_neg h]

/-! ### Inside and outside -/

/-- With a slash at its end, the entrance is the url of the mount's own page. -/
theorem entrance_append_slash :
    entrance contextPath place ++ "/" = urlBelow contextPath (path place) "" := by
  cases place with
  | none => simp [entrance, urlBelow, path]
  | some stem => simp [entrance, urlBelow, path, String.append_assoc]

/-- What is below the mount is longer than its entrance. -/
theorem entrance_ne_urlBelow (relative : String) :
    entrance contextPath place ≠ urlBelow contextPath (path place) relative := by
  intro h
  have hurl : urlBelow contextPath (path place) relative =
      entrance contextPath place ++ "/" ++ relative := by
    rw [entrance_append_slash, urlBelow, urlBelow, String.append_empty]
  have hlength := congrArg String.utf8ByteSize (h.trans hurl)
  have hslash : "/".utf8ByteSize = 1 := rfl
  rw [String.utf8ByteSize_append, String.utf8ByteSize_append, hslash] at hlength
  omega

/-- The entrance is outside the mount. -/
theorem relativeTo?_entrance {requestPath : String}
    (h : withoutParameters requestPath = entrance contextPath place) :
    relativeTo? contextPath (path place) requestPath = none := by
  rw [Option.eq_none_iff_forall_ne_some]
  intro relative hrelative
  rw [relativeTo?_eq_some_iff, h] at hrelative
  exact entrance_ne_urlBelow contextPath place relative hrelative

/-- A path without its parameters has no parameters behind a slash either. -/
theorem withoutParameters_append_slash (requestPath : String) :
    withoutParameters (withoutParameters requestPath ++ "/") =
      withoutParameters requestPath ++ "/" := by
  refine withoutParameters_eq_self fun hmem => ?_
  rw [String.toList_append, List.mem_append] at hmem
  rcases hmem with hmem | hmem
  · exact not_mem_withoutParameters requestPath hmem
  · exact absurd hmem (by decide)

/-- **The redirect fires exactly at the entrance, leads inside and does not loop.** For every mount
whose filter path is empty or a name with a slash, a request is redirected if and only if its path,
up to its parameters, is the entrance, and then to that path with a slash and the query. The
entrance is outside the mount, the path with the slash is the mount's own page, and a request for
that is not redirected, whatever its query. At the root of an empty context nothing that begins with
a slash is redirected. -/
theorem redirect_exact {context : String} {source : MountSource} {fixed : Option String}
    {files : Storage} {place : Option Stem}
    (hplace : filterPath files ⟨canonicalContextPath context, source, fixed⟩ = path place)
    (requestPath query : String) :
    let m : Mount := ⟨canonicalContextPath context, source, fixed⟩
    let u := withoutParameters requestPath
    let bare := entrance (canonicalContextPath context) place
    (m.step files (.redirect requestPath query)).1 =
      .maybe (if u = bare then some (u ++ "/" ++ if query = "" then "" else "?" ++ query)
        else none) ∧
    (u = bare →
      (m.step files (.relative requestPath)).1 = .maybe none ∧
      (m.step files (.relative (u ++ "/"))).1 = .maybe (some "") ∧
      ∀ other, (m.step files (.redirect (u ++ "/") other)).1 = .maybe none) ∧
    (canonicalContextPath context = "" → place = none → requestPath.toList.head? = some '/' →
      (m.step files (.redirect requestPath query)).1 = .maybe none) := by
  intro m u bare
  have hredirect : ∀ p q, (m.step files (.redirect p q)).1 =
      .maybe (redirectTarget? (canonicalContextPath context) (path place) p q) :=
    fun p q => by rw [← hplace]; rfl
  have hrelative : ∀ p, (m.step files (.relative p)).1 =
      .maybe (relativeTo? (canonicalContextPath context) (path place) p) :=
    fun p => by rw [← hplace]; rfl
  refine ⟨?_, fun hbare => ⟨?_, ?_, fun other => ?_⟩, fun hcontext hroot hhead => ?_⟩
  · rw [hredirect, redirectTarget?_path]
  · rw [hrelative, relativeTo?_entrance _ _ hbare]
  · rw [hrelative, Answer.maybe.injEq, relativeTo?_eq_some_iff, withoutParameters_append_slash,
      ← entrance_append_slash]
    exact congrArg (· ++ "/") hbare
  · -- the page inside is the url of the empty path, and no url below the mount is the entrance
    rw [hredirect, redirectTarget?_path, withoutParameters_append_slash, if_neg]
    rw [show withoutParameters requestPath = bare from hbare, entrance_append_slash]
    exact (entrance_ne_urlBelow _ place "").symm
  · rw [hredirect, redirectTarget?_path, if_neg]
    subst hroot
    rw [hcontext]
    intro hempty
    -- the first character is no semicolon, so it is still there
    obtain ⟨rest, hrest⟩ := List.head?_eq_some_iff.mp hhead
    rw [entrance, ← String.toList_inj, withoutParameters, String.toList_ofList, hrest, upTo,
      List.takeWhile_cons_of_pos (by decide)] at hempty
    exact absurd hempty (List.cons_ne_nil _ _)

/-- A shop below a context, asked for with a session and a query. -/
theorem redirect_exact_shop :
    let m : Mount := ⟨canonicalContextPath "shop/", .explicit "/app/*", none⟩
    (m.step {} (.redirect "/shop/app;jsessionid=1" "a=1")).1 = .maybe (some "/shop/app/?a=1") ∧
      (m.step {} (.relative "/shop/app/")).1 = .maybe (some "") ∧
      (m.step {} (.redirect "/shop/app/" "a=1")).1 = .maybe none := by
  intro m
  let stem : Stem := ⟨"app", by decide, by decide, by decide⟩
  have hplace : filterPath {} ⟨canonicalContextPath "shop/", .explicit "/app/*", none⟩ =
      path (some stem) := by decide
  have hbare : withoutParameters "/shop/app;jsessionid=1" =
      entrance (canonicalContextPath "shop/") (some stem) := by decide
  obtain ⟨hredirect, hinside, -⟩ := redirect_exact hplace "/shop/app;jsessionid=1" "a=1"
  obtain ⟨-, hown, hstays⟩ := hinside hbare
  rw [if_pos hbare] at hredirect
  exact ⟨hredirect, hown, hstays "a=1"⟩

end WebMount.Mount
