import ShaderLoom.Wgsl.Conversion

/-!
Reading, writing and measuring textures.

A texture is a variable of the module, a parameter, or an item of an array of bindings; nothing
else gives one. A sample is taken at coordinates, at a level that the neighbouring fragments
determine unless it is given.
-/

namespace ShaderLoom.Wgsl

open Build

/-- How the level of a sample is found. -/
inductive Level where
  | auto
  | zero
  | exact (o : Operand)
  | bias (o : Operand)
  | gradient (x y : Operand)

/-- A function that takes samples: what it wants behind the coordinates. -/
inductive Sampling where
  | plain | bias | compare | compareLevel | gradient | level | gather | gatherCompare
  deriving DecidableEq

def sampling? : String → Option Sampling
  | "textureSample" => some .plain
  | "textureSampleBias" => some .bias
  | "textureSampleCompare" => some .compare
  | "textureSampleCompareLevel" => some .compareLevel
  | "textureSampleGrad" => some .gradient
  | "textureSampleLevel" => some .level
  | "textureGather" => some .gather
  | "textureGatherCompare" => some .gatherCompare
  | _ => none

namespace Dimension

def coordinates : Dimension → Nat
  | one => 1
  | two => 2
  | three => 3
  | cube => 3

end Dimension

namespace Texels

def isDepth : Texels → Bool
  | depth _ => true
  | _ => false

def isMulti : Texels → Bool
  | sampled _ multi => multi
  | depth multi => multi
  | stored _ _ _ => false

def hasLevels : Texels → Bool
  | sampled _ multi => !multi
  | depth multi => !multi
  | stored _ _ _ => false

def value : Texels → Ty
  | sampled kind _ => .vector 4 kind
  | depth _ => .float
  | stored _ kind _ => .vector 4 kind

def gathered : Texels → Ty
  | sampled kind _ => .vector 4 kind
  | _ => .vector 4 .float

end Texels

def isPosition (p : Scalar → Bool) (n : Nat) (t : Ty) : Bool :=
  match t.bare with
  | .scalar s => n = 1 && p s
  | .vector k s => n = k && n != 1 && p s
  | _ => false

/-- Positions of single texels; a cube has none. -/
def isTexelPosition (d : Dimension) (t : Ty) : Bool :=
  d != .cube && isPosition Scalar.isInteger d.coordinates t

/-- A resource is named directly, or as an item of an array of bindings. -/
def isResource (o : Operand) : Bool :=
  match o.root with
  | .global _ => o.steps ≤ 1
  | .argument => o.steps = 0
  | _ => false

def texture? (o : Operand) : Option Texture :=
  match o.type.bare with
  | .texture t => some t
  | _ => none

def textureOf (o : Operand) : Build Texture :=
  match texture? o with
  | some t => pure t
  | none => refuse (.mistyped "a texture")

def isLayerIndex (t : Ty) : Bool := t.isScalarOf Scalar.isInteger

def next (os : List Operand) : Build (Operand × List Operand) :=
  match os with
  | o :: rest => pure (o, rest)
  | [] => refuse (.mistyped "the number of arguments")

def finish (os : List Operand) : Build Unit :=
  ensure os.isEmpty (.mistyped "the number of arguments")

/-- The index of a layer, where there are layers. -/
def layerIndex (t : Texture) (os : List Operand) : Build (Option Operand × List Operand) :=
  if t.layered then do
    let (o, rest) ← next os
    pure (some o, rest)
  else pure (none, os)

def levelAdmitted (t : Texture) : Level → Bool
  | .auto => true
  | .zero => true
  | .exact o => o.type.isScalarOf Scalar.isFloat
  | .bias o => o.type.isScalarOf Scalar.isFloat
  | .gradient x y =>
    isPosition Scalar.isFloat t.dimension.coordinates x.type &&
      isPosition Scalar.isFloat t.dimension.coordinates y.type

def sampleCheck (t : Texture) (image sampler coordinates : Operand)
    (layer reference : Option Operand) (gather : Option Nat) (level : Level)
    (offset : Option Operand) : Checked Unit := do
  require (isResource image && isResource sampler) (.mistyped "a resource")
  let comparison ← match sampler.type.bare with
    | .sampler c => .ok c
    | _ => .error (.mistyped "a sampler")
  require (layer.all fun o => isLayerIndex o.type) (.mistyped "a layer")
  let depth ← match t.texels with
    | .sampled kind false =>
      if kind.isFloat || gather.isSome then .ok false else .error (.mistyped "a texture")
    | .depth false => .ok true
    | _ => .error (.mistyped "a texture")
  require (comparison = reference.isSome && (!comparison || depth)) (.mistyped "a comparison")
  require (isPosition Scalar.isFloat t.dimension.coordinates coordinates.type)
    (.mistyped "coordinates")
  require (offset.all fun o => isPosition (· = .int) t.dimension.coordinates o.type)
    (.mistyped "an offset")
  require (reference.all fun o => o.type.isScalarOf Scalar.isFloat) (.mistyped "a reference")
  require (gather.isNone || t.dimension = .two || t.dimension = .cube) (.mistyped "a gathering")
  require (gather.all fun i => i = 0 || !depth) (.mistyped "a component")
  require (levelAdmitted t level) (.mistyped "a level")

def Level.operands : Level → List Operand
  | .exact o => [o]
  | .bias o => [o]
  | .gradient x y => [x, y]
  | _ => []

/-- Only neighbouring fragments determine a level that nothing is said about. -/
def Level.demand : Level → Demand
  | .auto => .only .fragment
  | _ => .none

/-- The texture of a gathering and the component that is gathered; a depth has only one. -/
def gatherSource (os : List Operand) : Build (Operand × Nat × List Operand) := do
  let (first, rest) ← next os
  match texture? first with
  | some t => if t.texels.isDepth then pure (first, 0, rest) else refuse (.mistyped "a component")
  | none => do
    let (image, rest) ← next rest
    match first.fixed?.bind Constant.natural? with
    | some i => if i < 4 then pure (image, i, rest) else refuse (.mistyped "a component")
    | none => refuse (.mistyped "a component")

/-- Takes a sample. An offset has to be constant. -/
def sample (m : Module) (f : Sampling) (os : List Operand) : Build Operand := do
  let (image, gather, rest) ← match f with
    | .gather => do
      let (image, i, rest) ← gatherSource os
      pure (image, some i, rest)
    | .gatherCompare => do
      let (image, rest) ← next os
      pure (image, some 0, rest)
    | _ => do
      let (image, rest) ← next os
      pure (image, none, rest)
  let (sampler, rest) ← next rest
  let (coordinates, rest) ← next rest
  let t ← textureOf image
  let (layer, rest) ← layerIndex t rest
  let (level, reference, rest) ← match f with
    | .plain => pure (Level.auto, none, rest)
    | .gather => pure (.zero, none, rest)
    | .bias => do
      let (o, rest) ← next rest
      pure (.bias o, none, rest)
    | .level => do
      let (o, rest) ← next rest
      pure (.exact o, none, rest)
    | .gradient => do
      let (x, rest) ← next rest
      let (y, rest) ← next rest
      pure (.gradient x y, none, rest)
    | .compare => do
      let (o, rest) ← next rest
      pure (.auto, some o, rest)
    | .compareLevel | .gatherCompare => do
      let (o, rest) ← next rest
      pure (.zero, some o, rest)
  let (offset, rest) := match rest with
    | o :: rest => (some o, rest)
    | [] => (none, [])
  finish rest
  ensure (offset.all fun o => o.fixed?.isSome) (.misplaced "an offset that varies")
  let args := [image, sampler, coordinates] ++ layer.toList ++ level.operands ++ reference.toList ++
    offset.toList
  runtime m args (.ok (if gather.isSome then t.texels.gathered else t.texels.value))
    (sampleCheck t image sampler coordinates layer reference gather level offset) level.demand

def loadTexel (m : Module) (os : List Operand) : Build Operand := do
  let (image, rest) ← next os
  let (coordinates, rest) ← next rest
  let t ← textureOf image
  let (layer, rest) ← layerIndex t rest
  let (level, rest) ← if t.texels.hasLevels then do
      let (o, rest) ← next rest
      pure ([o], rest)
    else pure ([], rest)
  let (sampleIndex, rest) ← if t.texels.isMulti then do
      let (o, rest) ← next rest
      pure ([o], rest)
    else pure ([], rest)
  finish rest
  let indices := level ++ sampleIndex
  runtime m ([image, coordinates] ++ layer.toList ++ indices) (.ok t.texels.value)
    (do
      require (isResource image) (.mistyped "a resource")
      require (isTexelPosition t.dimension coordinates.type) (.mistyped "coordinates")
      require (layer.all fun o => isLayerIndex o.type) (.mistyped "a layer")
      require (indices.all fun o => o.type.leaf? = some .int) (.mistyped "an index")) .none

/-- Writes a texel of a texture that holds texels of a fixed format. -/
def storeTexel (m : Module) (os : List Operand) : Build Unit := do
  let (image, rest) ← next os
  let (coordinates, rest) ← next rest
  let t ← textureOf image
  let (layer, rest) ← layerIndex t rest
  let (value, rest) ← next rest
  finish rest
  let fromModule := match image.root with
    | .global _ => image.steps ≤ 1
    | _ => false
  ensure fromModule (.mistyped "a resource")
  ensure (isTexelPosition t.dimension coordinates.type) (.mistyped "coordinates")
  ensure (layer.all fun o => isLayerIndex o.type) (.mistyped "a layer")
  match t.texels with
  | .stored _ kind _ => ensure (value.type.bare = .vector 4 kind) (.mistyped "a texel")
  | _ => refuse (.mistyped "a texture")
  use m .writing image
  ([coordinates, value] ++ layer.toList).forM (read m)
  act

/-- What may be asked of a texture. -/
inductive Query where
  | size | levels | layers | samples
  deriving DecidableEq

def query? : String → Option Query
  | "textureDimensions" => some .size
  | "textureNumLevels" => some .levels
  | "textureNumLayers" => some .layers
  | "textureNumSamples" => some .samples
  | _ => none

def sizeType (d : Dimension) : Ty :=
  match d with
  | .one => .uint
  | .two => .vector 2 .uint
  | .cube => .vector 2 .uint
  | .three => .vector 3 .uint

/-- Asks a texture for a size or number; a size may be that of a level. -/
def measure (m : Module) (q : Query) (os : List Operand) : Build Operand := do
  let (image, rest) ← next os
  let (level, rest) := match q, rest with
    | .size, o :: rest => ([o], rest)
    | _, rest => ([], rest)
  finish rest
  let t := texture? image
  let admitted := match t, q with
    | none, _ => false
    | some t, .size => level.isEmpty || t.texels.hasLevels
    | some t, .levels => t.texels.hasLevels
    | some t, .layers => t.layered
    | some t, .samples => t.texels.isMulti
  let type := match q, t with
    | .size, some t => .ok (sizeType t.dimension)
    | .size, none => .error (.mistyped "a texture")
    | _, _ => .ok Ty.uint
  let o ← runtime m (image :: level) type
    (require (isResource image && admitted) (.mistyped "a texture")) .none
  pure { o with demand := level.foldl (fun d a => d.join (a.used .reading)) (image.used .asking) }

end ShaderLoom.Wgsl
