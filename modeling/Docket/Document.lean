import Docket.Derivation
import Docket.Json.Basic
/-!
Documents, the references between them, and who may see them.
-/

namespace Docket

structure Reference where
  resource : Resource
  identity : Identity
  deriving DecidableEq, Inhabited

/-- A reference that a document holds: the id it refers to, and whether that is a descriptor. -/
structure OutboundRef where
  id : DocumentId
  isDescriptor : Bool
  deriving DecidableEq, Inhabited

namespace Reference

def id (reference : Reference) : Except Error DocumentId :=
  Derivation.checkedId reference.resource reference.identity

def resolve (reference : Reference) : Except Error OutboundRef :=
  match reference.id with
  | .ok id => .ok ⟨id, reference.resource.isDescriptor⟩
  | .error cause => .error cause

def resolveAll : List Reference → Except Error (List OutboundRef)
  | [] => .ok []
  | reference :: rest =>
      match reference.resolve with
      | .error cause => .error cause
      | .ok ref =>
          match resolveAll rest with
          | .error cause => .error cause
          | .ok refs => .ok (ref :: refs)

end Reference

instance : Key Bool where
  before a b := !a && b
  irrefl := by decide
  trans := by decide
  connex := by decide

/-- References are ordered by id, and of one id the one that is no descriptor comes first. -/
instance : Key OutboundRef where
  before a b := Key.before (a.id, a.isDescriptor) (b.id, b.isDescriptor)
  irrefl _ := Key.irrefl _
  trans less less' := Key.trans less less'
  connex {a b} late late' := by
    have same := Key.connex late late'
    cases a
    cases b
    simp_all

namespace OutboundRef

def dropRepeatsAfter (ref : OutboundRef) : List OutboundRef → List OutboundRef
  | [] => [ref]
  -- Sorted references to one id are neighbours, and the first of them is kept.
  | next :: rest =>
      if ref.id = next.id then dropRepeatsAfter ref rest else ref :: dropRepeatsAfter next rest

def dropRepeats : List OutboundRef → List OutboundRef
  | [] => []
  | ref :: rest => dropRepeatsAfter ref rest

/-- References in ascending order of id, one for each id. -/
def normalize (refs : List OutboundRef) : List OutboundRef := dropRepeats (sortKeys refs)

end OutboundRef

inductive Strategy where
  | fullAccess
  | ownershipBased
  deriving DecidableEq, Inhabited, Repr

structure Security where
  clientId : String
  strategy : Strategy
  deriving DecidableEq, Inhabited, Repr

structure Document where
  id : DocumentId
  resource : Resource
  identity : Identity
  body : Body
  outRefs : List OutboundRef
  /-- Further ids under which the document is referred to. -/
  aliasIds : List DocumentId
  /-- Whether every reference was checked when the document was written. -/
  validated : Bool
  createdBy : Option String
  deriving DecidableEq, Inhabited

namespace Document

def outRefIds (document : Document) : List DocumentId := document.outRefs.map OutboundRef.id

/-- The ids under which the document is found to exist: its own and its aliases. -/
def existenceIds (document : Document) : List DocumentId := document.id :: document.aliasIds

end Document

def Security.permits (security : Security) (document : Document) : Bool :=
  match security.strategy with
  | .fullAccess => true
  | .ownershipBased => document.createdBy = some security.clientId

end Docket
