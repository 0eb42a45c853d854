import WebMount.Proofs.Form.Submission
import WebMount.Proofs.UrlEncoded
import WebMount.Request.Basic

/-!
# Forms and queries read a text alike

A submitted body gives its values away one by one, while a query is searched anew for each name. If
no two components of a form have the same id, nobody is given what somebody else asks for, so each
component has the input that a query with the same text has under its id (`input_submit`). What was
written as pairs is found by both as it was written (`decoding_agrees`).
-/

namespace WebMount

open WebMount.Form WebMount.Text

/-- What is found under a name in pairs. -/
inductive UrlEncoded.IsFirstValue (pairs : List (String × String)) (name : String) :
    Option String → Prop where
  /-- The value of the first pair of the name is found. -/
  | found {before after : List (String × String)} {value : String}
      (hpairs : pairs = before ++ (name, value) :: after)
      (hfirst : name ∉ before.map Prod.fst) : IsFirstValue pairs name (some value)
  /-- Where no pair has the name, nothing is found. -/
  | absent (hnone : name ∉ pairs.map Prod.fst) : IsFirstValue pairs name none

theorem UrlEncoded.isFirstValue_valueOf? (pairs : List (String × String)) (name : String) :
    IsFirstValue pairs name (valueOf? pairs name) := by
  rw [valueOf?]
  cases hvalue : pairs.lookup name with
  | some value =>
    obtain ⟨before, after, hpairs, hbefore⟩ := List.lookup_eq_some_iff.mp hvalue
    refine .found hpairs fun hmem => ?_
    obtain ⟨pair, hpair, rfl⟩ := List.mem_map.mp hmem
    exact absurd (hbefore pair hpair) (by simp)
  | none =>
    refine .absent fun hmem => ?_
    obtain ⟨pair, hpair, rfl⟩ := List.mem_map.mp hmem
    exact absurd (List.lookup_eq_none_iff.mp hvalue pair hpair) (by simp)

/-- The query of a target is what stands behind its first question mark. -/
theorem Request.queryText_ofTarget {path : String} (hpath : '?' ∉ path.toList)
    (method query : String) :
    (Request.ofTarget method (path ++ "?" ++ query)).queryText = query := by
  have htarget : (path ++ "?" ++ query).toList = path.toList ++ '?' :: query.toList := by
    simp [String.toList_append]
  rw [ofTarget, htarget, splitFirst?_append _ hpath]
  exact String.ofList_toList

namespace Form

/-- If ids are different, no value is given away before its turn. -/
theorem inputFor_take {f : Form} (hids : (f.components.map Component.id).Nodup)
    (pairs : List (String × String)) {i : Nat} {c : Component} (hc : f.components[i]? = some c) :
    inputFor pairs (f.components.take i) c = UrlEncoded.valueOf? pairs c.id := by
  obtain ⟨hlt, hget⟩ := List.getElem?_eq_some_iff.mp hc
  have hsplit : f.components = f.components.take i ++ c :: f.components.drop (i + 1) := by
    rw [← hget, ← List.drop_eq_getElem_cons hlt, List.take_append_drop]
  have hfirst : (f.components.take i).any (fun b => b.id == c.id) = false := by
    rw [hsplit, List.map_append, List.map_cons, List.nodup_append] at hids
    refine List.any_eq_false.mpr fun b hb hsame => ?_
    exact hids.2.2 b.id (List.mem_map_of_mem hb) c.id List.mem_cons_self (beq_iff_eq.mp hsame)
  rw [inputFor, hfirst, if_neg Bool.false_ne_true]

/-- **Where ids are different, every component gets what is found under its id.** -/
theorem input_submit {f : Form} (hids : (f.components.map Component.id).Nodup) (body : String) :
    (f.submit body).2.components.map (fun c => (c.id, c.input)) =
      f.components.map fun c =>
        (c.id, UrlEncoded.valueOf? (UrlEncoded.decode body) c.id) := by
  refine List.ext_getElem? fun i => ?_
  rw [List.getElem?_map, List.getElem?_map, getElem?_submit, Option.map_map]
  cases hc : f.components[i]? with
  | none => rfl
  | some c =>
    obtain ⟨hdeclared, hinput⟩ := Component.validate_keeps
      (c.setInput (inputFor (UrlEncoded.decode body) (f.components.take i) c))
    have hid := congrArg Component.id hdeclared
    have hvalue := inputFor_take hids (UrlEncoded.decode body) hc
    exact congrArg some (Prod.ext hid (hinput.trans hvalue))

/-- **Forms and queries decode alike, and undo the encoding.** For every text, well-formed or not,
each component of a form with different ids has the input that a request with the text as its query
has as the parameter of its id. If the text is what pairs of names and values are written as, both
are the value of the first pair of the name, or nothing if no pair has the name. -/
theorem decoding_agrees {f : Form} (hids : (f.components.map Component.id).Nodup) {path : String}
    (hpath : '?' ∉ path.toList) (method : String) :
    (∀ text, (f.submit text).2.components.map (fun c => (c.id, c.input)) =
      f.components.map fun c =>
        (c.id, (Request.ofTarget method (path ++ "?" ++ text)).parameter? c.id)) ∧
    ∀ pairs text, text = UrlEncoded.encode pairs →
      (∀ name, UrlEncoded.IsFirstValue pairs name
        ((Request.ofTarget method (path ++ "?" ++ text)).parameter? name)) ∧
      ∀ c ∈ (f.submit text).2.components, UrlEncoded.IsFirstValue pairs c.id c.input := by
  have hparameter : ∀ text name, (Request.ofTarget method (path ++ "?" ++ text)).parameter? name =
      UrlEncoded.valueOf? (UrlEncoded.decode text) name := by
    intro text name
    rw [Request.parameter?, Request.queryText_ofTarget hpath]
  simp only [hparameter]
  refine ⟨input_submit hids, ?_⟩
  rintro pairs _ rfl
  rw [UrlEncoded.decode_encode]
  refine ⟨UrlEncoded.isFirstValue_valueOf? pairs, fun c hc => ?_⟩
  have hmem := List.mem_map_of_mem (f := fun c : Component => (c.id, c.input)) hc
  rw [input_submit hids, UrlEncoded.decode_encode] at hmem
  obtain ⟨d, -, hd⟩ := List.mem_map.mp hmem
  obtain ⟨hid, hinput⟩ := Prod.mk.inj hd
  rw [← hid, ← hinput]
  exact UrlEncoded.isFirstValue_valueOf? pairs d.id

/-- A name that is repeated, a value with separators and an escape in it, a text beyond ASCII, and a
component whose id nobody names. -/
theorem decoding_agrees_search :
    let f : Form := { id := "search", components := [{ id := "ä b" }, { id := "q" }, { id := "" }] }
    let pairs := [("q", "a&b=%41+\u2028"), ("ä b", "😀"), ("q", "2"), ("=", "")]
    let text := "q=a%26b%3D%2541%2B%E2%80%A8&%C3%A4+b=%F0%9F%98%80&q=2&%3D="
    (f.components.map Component.id).Nodup ∧ '?' ∉ "/find".toList ∧
    text = UrlEncoded.encode pairs ∧
    (f.submit text).2.components.map (fun c => (c.id, c.input)) =
      [("ä b", some "😀"), ("q", some "a&b=%41+\u2028"), ("", none)] ∧
    UrlEncoded.IsFirstValue pairs "q"
      ((Request.ofTarget "GET" ("/find" ++ "?" ++ text)).parameter? "q") := by
  intro f pairs text
  have hids : (f.components.map Component.id).Nodup := by decide +kernel
  have hpath : '?' ∉ "/find".toList := by decide +kernel
  have htext : text = UrlEncoded.encode pairs := by decide +kernel
  obtain ⟨hinputs, hpairs⟩ := decoding_agrees hids hpath "GET"
  have hfound : (f.components.map fun c =>
      (c.id, (Request.ofTarget "GET" ("/find" ++ "?" ++ text)).parameter? c.id)) =
        [("ä b", some "😀"), ("q", some "a&b=%41+\u2028"), ("", none)] := by
    decide +kernel
  exact ⟨hids, hpath, htext, (hinputs text).trans hfound, (hpairs pairs text htext).1 "q"⟩

end Form

end WebMount
