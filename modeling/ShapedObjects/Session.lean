import ShapedObjects.Site.Get
import ShapedObjects.Site.Set

/-!
# Sessions

A session is a program's use of the library: some object spaces and the call sites that
work on all of them. It goes on action by action. An action that faults changes
nothing.
-/

namespace ShapedObjects

/-- Some object spaces with the call sites that they share. -/
structure Session where
  /-- The spaces. -/
  spaces : List Space
  /-- The set sites in order of creation. -/
  setSites : List SetSite
  /-- The get sites in order of creation. -/
  getSites : List GetSite
deriving DecidableEq, Repr

/-- What can be done on one space. Sites are named by their position. -/
inductive Call where
  /-- Interns a name. -/
  | intern (name : String)
  /-- Allocates an object. -/
  | allocate
  /-- Assigns through a set site. -/
  | set (site : Nat) (target : HeapId) (write : Write)
  /-- Loads through a get site. -/
  | get (site : Nat) (target : HeapId) (load : Load)
  /-- Shows an event to the tracer. -/
  | observe (event : Event)
deriving DecidableEq, Repr

/-- What can be done in a session. -/
inductive Action where
  /-- A call on the space at a position. -/
  | call (space : Nat) (call : Call)
  /-- Creates a set site. -/
  | newSetSite (name : NameId)
  /-- Creates a get site. -/
  | newGetSite (name : NameId)
  /-- Copies a set site with its cache. -/
  | copySetSite (site : Nat)
  /-- Copies a get site with its cache. -/
  | copyGetSite (site : Nat)
deriving DecidableEq, Repr

/-- What an action answers. -/
inductive Reply where
  /-- The number of a name. -/
  | interned (name : NameId)
  /-- The number of a new object. -/
  | allocated (result : Except CallError HeapId)
  /-- Whether an assignment succeeded. -/
  | set (result : Except CallError Unit)
  /-- What a load gave. -/
  | got (result : Except CallError Loaded)
  /-- The event was shown. -/
  | observed
  /-- The position of a new site. -/
  | site (index : Nat)
deriving Repr

namespace Session

/-- A session of equal spaces without objects. -/
def new (count : Nat) (tracker : Tracker) (tracer : Tracer) : Session where
  spaces := (List.range count).map fun serial => .new serial tracker tracer
  setSites := []
  getSites := []

/-- The item at a position. -/
def item {α : Type} (items : List α) (index : Nat) : Except Fault α :=
  match items[index]? with
  | some item => .ok item
  | none => .error .indexOutOfBounds

/-- Makes a call on the space at a position. -/
def call (session : Session) (index : Nat) (call : Call) : Except Fault (Session × Reply) := do
  let space ← item session.spaces index
  match call with
  | .intern name =>
    let (space, id) := space.intern name
    return ({ session with spaces := session.spaces.set index space }, .interned id)
  | .allocate =>
    let (space, result) := space.allocate
    return ({ session with spaces := session.spaces.set index space }, .allocated result)
  | .set position target write =>
    let site ← item session.setSites position
    let outcome ← site.execute space target write
    return ({ session with
      spaces := session.spaces.set index outcome.space
      setSites := session.setSites.set position outcome.site }, .set outcome.result)
  | .get position target load =>
    let site ← item session.getSites position
    let outcome ← site.execute space target load
    return ({ session with
      spaces := session.spaces.set index outcome.space
      getSites := session.getSites.set position outcome.site }, .got outcome.result)
  | .observe event =>
    return ({ session with
      spaces := session.spaces.set index (space.observe event) }, .observed)

/-- Takes one action. -/
def step (session : Session) : Action → Except Fault (Session × Reply)
  | .call space call => session.call space call
  | .newSetSite name =>
    .ok ({ session with setSites := session.setSites ++ [.new name] },
      .site session.setSites.length)
  | .newGetSite name =>
    .ok ({ session with getSites := session.getSites ++ [.new name] },
      .site session.getSites.length)
  | .copySetSite position => do
    let site ← item session.setSites position
    return ({ session with setSites := session.setSites ++ [site] },
      .site session.setSites.length)
  | .copyGetSite position => do
    let site ← item session.getSites position
    return ({ session with getSites := session.getSites ++ [site] },
      .site session.getSites.length)

/-- The session after an action. A fault leaves it as it was. -/
def next (session : Session) (action : Action) : Session :=
  match session.step action with
  | .ok (session, _) => session
  | .error _ => session

/-- The session after some actions. -/
def run (session : Session) (actions : List Action) : Session :=
  actions.foldl next session

end Session

end ShapedObjects
