import ShapedObjects.Node
import ShapedObjects.Space

/-!
# Loads with a cache

A get site loads one attribute. It caches the shape that it last saw with a node
for the attribute's slot there. A missing attribute is an error and is not cached.
-/

namespace ShapedObjects

/-- A load of one attribute. -/
structure GetSite where
  /-- The attribute. -/
  name : NameId
  /-- The shape last seen and the node for the attribute's slot there. -/
  cache : Option (Shape × ReadNode)
deriving DecidableEq, Repr

namespace GetSite

/-- A site that has seen no object yet. -/
def new (name : NameId) : GetSite := ⟨name, none⟩

/-- The kind of slot that the site is specialized for, if it has a node at all. -/
def state (site : GetSite) : Option Kind := site.cache.map (·.2.kind)

/-- The cached node, if it was made for this very shape. -/
def hit? (site : GetSite) (shape : Shape) : Option ReadNode :=
  match site.cache with
  | some (cached, node) => if cached.same shape then some node else none
  | none => none

/-- The node for an object: the cached one if the object is on the cached shape, else a new one.
An object without the attribute leaves the site as it is. -/
def specialize (site : GetSite) (space : Space) (target : HeapId) :
    Except Fault (Outcome GetSite ReadNode) := do
  let object ← space.heap.get target
  match site.hit? object.shape with
  | some node => return ⟨site, space, .ok node⟩
  | none =>
    match object.shape.location? site.name with
    | some location =>
      let node := ⟨location⟩
      return {
        site := { site with cache := some (object.shape, node) }
        space := space.observe (.specialized site.name node.kind)
        result := .ok node }
    | none =>
      match space.interner.text? site.name with
      | some name =>
        return ⟨site, space, .error (.catchable (.missingAttribute .object name))⟩
      | none => throw .indexOutOfBounds

/-- Loads the attribute of an object. -/
def execute (site : GetSite) (space : Space) (target : HeapId) (load : Load) :
    Except Fault (Outcome GetSite Loaded) := do
  let found ← site.specialize space target
  match found.result with
  | .error error => return { found with result := .error error }
  | .ok node =>
    let object ← found.space.heap.get target
    let loaded ← node.load object load
    return { found with result := .ok loaded }

end GetSite

end ShapedObjects
