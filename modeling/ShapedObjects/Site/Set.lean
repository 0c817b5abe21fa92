import ShapedObjects.Node
import ShapedObjects.Space

/-!
# Assignments with a cache

A set site assigns one attribute. It caches the shape that it last saw with a node
for the attribute's slot there, and uses the node for every object on that very
shape. A slot that refuses a value is boxed, and from then on the site is general:
it boxes its attribute on every object that it assigns to.
-/

namespace ShapedObjects

/-- An assignment of one attribute. -/
structure SetSite where
  /-- The attribute. -/
  name : NameId
  /-- The shape last seen and the node for the attribute's slot there. -/
  cache : Option (Shape × WriteNode)
deriving DecidableEq, Repr

namespace SetSite

/-- A site that has seen no object yet. -/
def new (name : NameId) : SetSite := ⟨name, none⟩

/-- The cached node. -/
def node? (site : SetSite) : Option WriteNode := site.cache.map (·.2)

/-- The kind of slot that the site is specialized for, if it has a node at all. -/
def state (site : SetSite) : Option Kind := site.node?.map (·.kind)

/-- Whether the site boxes its attribute everywhere. -/
def isGeneral (site : SetSite) : Bool := site.state = some .object

/-- The cached node, if it was made for this very shape. -/
def hit? (site : SetSite) (shape : Shape) : Option WriteNode :=
  match site.cache with
  | some (cached, node) => if cached.same shape then some node else none
  | none => none

/-- Caches a node for a slot of a shape. -/
def install (site : SetSite) (space : Space) (reached : Reached) :
    Outcome SetSite WriteNode :=
  let node := ⟨reached.location⟩
  { site := { site with cache := some (reached.shape, node) }
    space := space.observe (.specialized site.name node.kind)
    result := .ok node }

/-- Moves an object from its shape to the one in which the attribute is boxed, and caches a node
for the boxed slot. -/
def widen (site : SetSite) (space : Space) (target : HeapId) (shape : Shape) :
    Except Fault (Outcome SetSite WriteNode) := do
  let (registry, reached) := space.registry.generalize shape site.name
  let heap ← space.heap.migrateObject target reached.shape
  let space := { space with registry := registry, heap := heap }
  return site.install (space.observe (.moved shape.id reached.shape.id .generalize)) reached

/-- Gives an object the attribute in a slot of a kind, and caches a node for it. If the object
would have too many slots, only the registry has changed. -/
def append (site : SetSite) (space : Space) (target : HeapId) (shape : Shape) (kind : Kind) :
    Except Fault (Outcome SetSite WriteNode) := do
  let (registry, reached) := space.registry.addAttribute shape site.name kind
  let space := { space with registry := registry }
  match ← space.heap.extendObject target reached.shape with
  | .error refusal => return ⟨site, space, .error (.ofLimit refusal)⟩
  | .ok heap =>
    let space := { space with heap := heap }
    return site.install (space.observe (.moved shape.id reached.shape.id .addAttribute)) reached

/-- The node for an object: the cached one if the object is on the cached shape, else a new one.
A general site boxes the attribute on the way; any other site takes the slot as it finds it, and
gives a new attribute a slot of kind `initial`. -/
def specialize (site : SetSite) (space : Space) (target : HeapId) (initial : Kind) :
    Except Fault (Outcome SetSite WriteNode) := do
  let object ← space.heap.get target
  match site.hit? object.shape with
  | some node => return ⟨site, space, .ok node⟩
  | none =>
    match object.shape.location? site.name with
    | some location =>
      if location.kind.isPrimitive && site.isGeneral then site.widen space target object.shape
      else return site.install space ⟨object.shape, location⟩
    | none =>
      site.append space target object.shape (if site.isGeneral then .object else initial)

/-- Boxes the slot that refused a value, and stores the value there. -/
def generalize (site : SetSite) (space : Space) (target : HeapId) (rejection : Rejection) :
    Except Fault (Outcome SetSite Unit) := do
  let space := space.observe (.generalized site.name rejection.location.kind)
  let object ← space.heap.get target
  let widened ← site.widen space target object.shape
  match widened.result with
  | .error error => return { widened with result := .error error }
  | .ok node =>
    let object ← widened.space.heap.getToChange target
    match node.store object (.boxed rejection.value) with
    | .stored object =>
      let space := (widened.space.put target object).observe (.written node.kind .generic)
      return ⟨widened.site, space, .ok ()⟩
    | .rejected _ =>
      return { widened with
        result := .error (.internal "generalized attribute slot rejected a value") }
    | .outOfBounds => throw .indexOutOfBounds

/-- Assigns the attribute of an object. -/
def execute (site : SetSite) (space : Space) (target : HeapId) (write : Write) :
    Except Fault (Outcome SetSite Unit) := do
  let found ← site.specialize space target write.initialKind
  match found.result with
  | .error error => return { found with result := .error error }
  | .ok node =>
    let object ← found.space.heap.getToChange target
    match node.store object write with
    | .stored object =>
      let space := (found.space.put target object).observe (.written node.kind (node.path write))
      return ⟨found.site, space, .ok ()⟩
    | .rejected rejection => found.site.generalize found.space target rejection
    | .outOfBounds => throw .indexOutOfBounds

end SetSite

end ShapedObjects
