import WorkflowAtlas.Callee

/-!
# Routers and clients

The names of objects whose methods register routes and send requests. The last segment of a
receiver decides: `app`, `this.app` and `make.app()` are all `app`.
-/

namespace WorkflowAtlas.Http

/-- **The names of router and client objects.** -/
structure Objects where
  routers : List String
  clients : List String
  deriving DecidableEq, Repr, Inhabited

namespace Objects

/-- Whether a receiver registers routes. -/
def isRouter (objects : Objects) (receiver : String) : Bool :=
  Callee.simpleName receiver ∈ objects.routers

/-- Whether a receiver sends requests. -/
def isClient (objects : Objects) (receiver : String) : Bool :=
  Callee.simpleName receiver ∈ objects.clients

end Objects

end WorkflowAtlas.Http
