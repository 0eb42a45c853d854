import Mathlib.Data.List.Forall2
import WebMount.Proofs.Resource.MediaTypes
import WebMount.Proofs.Server.Serving

/-!
# Settings that agree

A resource is described with the default lifetime of the settings, and written with their media
types, of which nothing is seen but those that can be sent. Settings that agree on these
(`ResourceSettings.Agrees`) make the same description and the same program of it, so requests that
differ in no more than settings which agree make the same steps (`Job.Stage.Agrees.next`).
Configurations make settings that agree if they have the same default lifetime and the same map of
media types, as long as its entries for one extension are sent alike, so that it does not matter in
which order they come (`Config.Resources.SameMap.agrees`).
-/

namespace WebMount

open WebMount.Response

/-! ### What a media type is sent as -/

theorem Headers.isValue_append (s t : String) : isValue (s ++ t) = (isValue s && isValue t) := by
  rw [isValue, String.toList_append, List.all_append]
  rfl

/-- A content type that cannot be the value of a field makes no difference to a program. -/
theorem Response.Command.scriptAll_contentType (contentType : Option String)
    (rest : List Command) : scriptAll (contentType.toList.map .contentType ++ rest) =
      scriptAll ((contentType.filter Headers.isValue).toList.map .contentType ++ rest) := by
  cases contentType with
  | none => rfl
  | some value =>
    cases hvalue : Headers.isValue value with
    | true => rw [Option.filter_some_pos hvalue]
    | false =>
      have hops : (Command.contentType value).ops = .ok [] := by
        rw [ops, textHeader, hvalue, if_neg Bool.false_ne_true]
      have hscript : (Command.contentType value).script = .done (.ok ()) := by
        rw [script, hops]
        rfl
      rw [Option.filter_some_neg hvalue]
      change (Command.contentType value).script.andThen (scriptAll rest) = scriptAll rest
      rw [hscript]
      rfl

/-! ### Settings that agree -/

/-- Settings that agree on the default lifetime and on the media type that can be sent for every
file. -/
structure ResourceSettings.Agrees (a b : ResourceSettings) : Prop where
  lifetime : a.defaultLifetime = b.defaultLifetime
  typeOf : ∀ fileName, (a.mediaTypes.typeOf? fileName).filter Headers.isValue =
    (b.mediaTypes.typeOf? fileName).filter Headers.isValue

namespace Config.Resources

variable {p q : Config.Resources}

/-- Configurations whose settings agree. -/
structure Agrees (p q : Config.Resources) : Prop where
  lifetime : p.lifetimeSeconds = q.lifetimeSeconds
  typeOf : ∀ fileName,
    ((MediaTypes.ofList p.mediaTypes).typeOf? fileName).filter Headers.isValue =
      ((MediaTypes.ofList q.mediaTypes).typeOf? fileName).filter Headers.isValue

theorem Agrees.settings (h : p.Agrees q) :
    (ResourceSettings.ofConfig p).Agrees (.ofConfig q) :=
  ⟨congrArg Time.Duration.ofSeconds h.lifetime, h.typeOf⟩

/-- Configurations with the same default lifetime and the same map of media types, the entries of
which may be listed in another order. -/
structure SameMap (p q : Config.Resources) : Prop where
  lifetime : p.lifetimeSeconds = q.lifetimeSeconds
  mediaTypes : p.mediaTypes.Perm q.mediaTypes

theorem SameMap.refl (p : Config.Resources) : p.SameMap p :=
  ⟨rfl, .refl _⟩

/-- The order does not matter if the entries for one extension are sent alike. -/
theorem SameMap.agrees (h : p.SameMap q) (halike : MediaTypes.SentAlike p.mediaTypes) :
    p.Agrees q :=
  ⟨h.lifetime, halike.filter_typeOf?_eq (.refl _) h.mediaTypes.symm⟩

end Config.Resources

section

variable {a b : ResourceSettings}

theorem ResourceSettings.Agrees.refl (a : ResourceSettings) : a.Agrees a :=
  ⟨rfl, fun _ => rfl⟩

/-- Descriptions start from the same lifetime. -/
theorem Description.create_eq (h : a.Agrees b) : create a = create b := by
  rw [create, create, h.lifetime]

/-- A resource describes the same answer. -/
theorem Resource.describe_eq (h : a.Agrees b) (r : Resource) (files : Storage)
    (request : Request) : r.describe files a request = r.describe files b request := by
  have hcreate := Description.create_eq h
  cases r with
  | bytes r => simp only [describe, BytesResource.describe, hcreate]
  | file r => simp only [describe, FileResource.describe, hcreate]
  | image r => simp only [describe, ImageResource.describe, ImageResource.describeIn, hcreate]
  | custom changes => simp only [describe, hcreate]

/-- A filter that looks through a function does not tell what the function does to the values that
the filter drops anyhow. -/
private theorem filter_map_eq {α : Type} {p : α → Bool} {f : α → α}
    (hf : ∀ a, p (f a) = true → p a = true) {x y : Option α} (h : x.filter p = y.filter p) :
    (x.map f).filter p = (y.map f).filter p := by
  have hfilter : ∀ x : Option α, (x.map f).filter p = ((x.filter p).map f).filter p := by
    intro x
    cases x with
    | none => rfl
    | some a =>
      cases ha : p a with
      | true => rw [Option.filter_some_pos ha]
      | false =>
        have hfa : p (f a) = false :=
          Bool.eq_false_iff.mpr fun hpf => Bool.false_ne_true (ha.symm.trans (hf a hpf))
        rw [Option.filter_some_neg ha, Option.map_some, Option.filter_some_neg hfa]
        rfl
  rw [hfilter x, hfilter y, h]

/-- The same content type is sent. -/
theorem Description.filter_contentTypeField?_eq (h : a.Agrees b) (d : Description) :
    (d.contentTypeField? a.mediaTypes).filter Headers.isValue =
      (d.contentTypeField? b.mediaTypes).filter Headers.isValue := by
  have htype : (d.mediaType? a.mediaTypes).filter Headers.isValue =
      (d.mediaType? b.mediaTypes).filter Headers.isValue := by
    unfold mediaType?
    split
    · rfl
    · exact h.typeOf _
    · rfl
  refine filter_map_eq (fun mediaType hvalue => ?_) htype
  -- a media type that is no value does not become one by the encoding behind it
  split at hvalue
  · split at hvalue
    · change Headers.isValue (mediaType ++ _ ++ _) = true at hvalue
      rw [Headers.isValue_append, Headers.isValue_append, Bool.and_assoc, Bool.and_eq_true]
        at hvalue
      exact hvalue.1
    · exact hvalue
  · exact hvalue

/-- The same is said about the data, by the same program. -/
theorem Description.sayScript_contentCommands_eq (h : a.Agrees b) (d : Description) :
    sayScript (d.contentCommands a.mediaTypes) = sayScript (d.contentCommands b.mediaTypes) := by
  simp only [sayScript, contentCommands, List.append_assoc, List.cons_append,
    List.nil_append, Command.scriptAll]
  rw [Command.scriptAll_contentType, filter_contentTypeField?_eq h,
    ← Command.scriptAll_contentType]

/-- A description is written by the same program. -/
theorem Description.scriptOf_eq (h : a.Agrees b) (request : Request)
    (description : Except Crash Description) :
    scriptOf a request description = scriptOf b request description := by
  cases description with
  | error defect => rfl
  | ok d => simp only [scriptOf, script, sayScript_contentCommands_eq h]

/-! ### Requests that agree -/

/-- Responders that are the same, or the same resource with settings that agree. -/
inductive Responder.Agrees : Responder → Responder → Prop where
  | same (responder : Responder) : Agrees responder responder
  | resource (r : Resource) {a b : ResourceSettings} (h : a.Agrees b) :
    Agrees (.resource r a) (.resource r b)

theorem Server.responderFor_agrees (h : a.Agrees b) (s : Server) (target : Option Target) :
    ({ s with settings := a }.responderFor target).Agrees
      ({ s with settings := b }.responderFor target) := by
  cases target with
  | none => exact .same _
  | some target =>
    cases target with
    | suggestions id => exact .same _
    | resource scope name =>
      simp only [responderFor]
      cases s.resources.get? ⟨scope, name⟩ with
      | none => exact .same _
      | some r => exact .resource r h

/-- Who answers does not hang on the settings. -/
theorem Server.find_agrees (h : a.Agrees b) (s : Server) (files : Storage) (request : Request) :
    (s.find files request a).Agrees (s.find files request b) := by
  simp only [find, dispatch]
  split
  · exact .same _
  · exact s.responderFor_agrees h _

/-- Stages that differ in no more than settings, which agree. -/
inductive Job.Stage.Agrees : Job.Stage → Job.Stage → Prop where
  | found {f g : ResourceSettings → Responder} (h : ∀ a b, a.Agrees b → (f a).Agrees (g b)) :
    Agrees (found f) (found g)
  | loaded {p q : Responder} (h : p.Agrees q) : Agrees (loaded p) (loaded q)
  | described {a b : ResourceSettings} (h : a.Agrees b) (description : Except Crash Description) :
    Agrees (described a description) (described b description)
  | delivering (d : Delivery) : Agrees (delivering d) (delivering d)
  | answered (answer : Answer) : Agrees (answered answer) (answered answer)

/-- **Stages that agree make the same steps.** -/
theorem Job.Stage.Agrees.next {first second later : Stage} (h : first.Agrees second)
    (hsettings : a.Agrees b) {files : Storage} {request : Request} {freshId : String} {step : Step}
    (hstep : Makes a files request freshId first step later) :
    ∃ other, second.next? b files request freshId step = some other ∧ later.Agrees other := by
  cases hstep with
  | load =>
    cases h with
    | found h => exact ⟨_, rfl, .loaded (h a b hsettings)⟩
  | @describe r own =>
    cases h with
    | loaded h =>
      cases h with
      | same => exact ⟨_, rfl, .described (.refl own) _⟩
      | resource _ h => exact ⟨_, rfl, Resource.describe_eq h r files request ▸ .described h _⟩
  | @reply responder hother =>
    cases h with
    | loaded h =>
      cases h with
      | resource r h => exact absurd rfl (hother r _)
      | same =>
        cases responder with
        | resource r own => exact absurd rfl (hother r own)
        | redirect | nobody | suggestions => exact ⟨_, rfl, .answered _⟩
  | @deliver own description =>
    cases h with
    | described h =>
      refine ⟨_, rfl, ?_⟩
      rw [Description.scriptOf_eq h]
      exact .delivering _
  | move hmove =>
    cases h with
    | delivering => exact ⟨_, by rw [next?, hmove]; rfl, .delivering _⟩
  | finish hfinished =>
    cases h with
    | delivering => exact ⟨_, by rw [next?, hfinished], .answered _⟩

end

/-- Requests in work that differ in no more than settings, which agree. -/
structure Job.Agrees (j k : Job) : Prop where
  request : j.request = k.request
  freshId : j.freshId = k.freshId
  stage : j.stage.Agrees k.stage

theorem Job.Agrees.rel_getElem? {js ks : List Job} (h : List.Forall₂ Job.Agrees js ks) (i : Nat) :
    Option.Rel Job.Agrees js[i]? ks[i]? := by
  induction h generalizing i with
  | nil => exact .none
  | cons hhead _ ih =>
    cases i with
    | zero => exact .some hhead
    | succ i => exact ih i

theorem Job.Agrees.forall₂_set {js ks : List Job} {j k : Job} (h : List.Forall₂ Job.Agrees js ks)
    (hjob : j.Agrees k) (i : Nat) : List.Forall₂ Job.Agrees (js.set i j) (ks.set i k) := by
  induction h generalizing i with
  | nil => exact .nil
  | cons hhead htail ih =>
    cases i with
    | zero => exact .cons hjob htail
    | succ i => exact .cons hhead (ih i)

end WebMount
