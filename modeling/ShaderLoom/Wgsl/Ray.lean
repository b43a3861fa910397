import ShaderLoom.Wgsl.Conversion

/-!
Ray queries: they are started, driven forward, and asked for the intersection they have found.

A query is a variable of the function that uses it.
-/

namespace ShaderLoom.Wgsl

open Build

def requireQuery (o : Operand) : Build Unit :=
  ensure (o.type.pointee?.any fun (t, _) => t.bare = .rayQuery) (.mistyped "a ray query")

/-- A pointer to the variable itself. -/
def requireOwnQuery (o : Operand) : Build Unit := do
  requireQuery o
  ensure (o.root = .variable && o.steps = 0) (.mistyped "a ray query")

def startQuery (m : Module) (query scene ray : Operand) : Build Unit := do
  requireOwnQuery query
  ensure (scene.type.bare = .accelerationStructure) (.mistyped "an acceleration structure")
  ensure (m.same ray.type (.record "RayDesc")) (.mistyped "a ray")
  [query, scene, ray].forM (read m)
  act

/-- Whether there is more to be found. -/
def proceed (m : Module) (query : Operand) : Build Operand := do
  requireOwnQuery query
  read m query
  act
  pure { type := .bool }

def committedIntersection (m : Module) (query : Operand) : Build Operand := do
  requireQuery query
  let isOwn := query.type.pointee?.any fun (_, space) => space = .function
  runtime m [query] (.ok (.record "RayIntersection")) (require isOwn (.mistyped "a ray query"))
    .none

end ShaderLoom.Wgsl
