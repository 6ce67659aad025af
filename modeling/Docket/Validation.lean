import Docket.Config.Basic
import Docket.ExistenceCache
import Docket.Service.Script
/-!
Which references of a document must exist, and which of those do not.
-/

namespace Docket

namespace DescriptorPolicy

/-- Whether the policy leaves the existence of a reference unchecked: those of a descriptor to
    documents that are none always, those to descriptors under `bootstrap`. -/
def defers (policy : DescriptorPolicy) (fromDescriptor toDescriptor : Bool) : Bool :=
  (fromDescriptor && !toDescriptor) || (toDescriptor && policy = .bootstrap)

def enforced (policy : DescriptorPolicy) (document : Document) : List DocumentId :=
  sortKeys ((document.outRefs.filter fun ref =>
    !policy.defers document.resource.isDescriptor ref.isDescriptor).map OutboundRef.id)

def deferred (policy : DescriptorPolicy) (document : Document) : List DocumentId :=
  sortKeys ((document.outRefs.filter fun ref =>
    policy.defers document.resource.isDescriptor ref.isDescriptor).map OutboundRef.id)

end DescriptorPolicy

structure ValidationResult where
  invalidRefs : List DocumentId
  enforced : List DocumentId
  deferred : List DocumentId
  deriving DecidableEq

namespace ValidationResult

def isValid (result : ValidationResult) : Bool := result.invalidRefs.isEmpty

def fullyChecked (result : ValidationResult) : Bool := result.deferred.isEmpty

end ValidationResult

/-- Looks the enforced ids of a document up, in the cache and those not remembered in the store.
    The store is not asked when nothing is left to ask for. -/
def validateReferences (policy : DescriptorPolicy) (cache : ExistenceCache)
    (document : Document) : Script (Except StoreError ValidationResult) :=
  let enforced := policy.enforced document
  let deferred := policy.deferred document
  -- What the cache remembers is taken on trust here; the store checks it again on commit.
  match enforced.filter fun id => !cache.contains id with
  | [] => .done (.ok ⟨[], enforced, deferred⟩)
  | misses => .findExisting misses fun
      | .error cause => .done (.error cause)
      | .ok found => .done (.ok ⟨misses.filter fun id => !found.contains id, enforced, deferred⟩)

end Docket
