import WebMount.Lookup
import WebMount.Resource.Basic

/-!
# Shared resources

The resources that an application shares, each under a scope and a name. A resource takes the
place of an earlier one under the same key, and keys are listed in the order of scope and name.
-/

namespace WebMount

/-- The scope and the name of a shared resource. -/
structure ResourceKey where
  scope : String
  name : String
  deriving DecidableEq, Repr

namespace ResourceKey

/-- The written form of a key. -/
def render (key : ResourceKey) : String :=
  key.scope ++ "/" ++ key.name

/-- The order of keys: by scope, and by name within a scope. -/
def le (a b : ResourceKey) : Bool :=
  decide (a.scope < b.scope) || (a.scope == b.scope && decide (a.name ≤ b.name))

end ResourceKey

/-- Shared resources by key. -/
structure Registry where
  entries : List (ResourceKey × Resource) := []

namespace Registry

/-- The resource under a key. -/
def get? (registry : Registry) (key : ResourceKey) : Option Resource :=
  registry.entries.lookup key

/-- The registry without the resource under a key. -/
def erase (registry : Registry) (key : ResourceKey) : Registry :=
  ⟨without key registry.entries⟩

/-- The registry with a resource under a key. -/
def insert (registry : Registry) (key : ResourceKey) (resource : Resource) : Registry :=
  ⟨put key resource registry.entries⟩

/-- The number of resources. -/
def size (registry : Registry) : Nat :=
  registry.entries.length

/-- The keys in order. -/
def keys (registry : Registry) : List ResourceKey :=
  (registry.entries.map (·.1)).mergeSort ResourceKey.le

theorem get?_erase (registry : Registry) (key other : ResourceKey) :
    (registry.erase key).get? other = if other = key then none else registry.get? other :=
  lookup_without _ _ _

theorem get?_insert (registry : Registry) (key other : ResourceKey) (resource : Resource) :
    (registry.insert key resource).get? other =
      if other = key then some resource else registry.get? other :=
  lookup_put _ _ _ _

end Registry

end WebMount
