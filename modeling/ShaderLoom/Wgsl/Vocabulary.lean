import ShaderLoom.Wgsl.Tree

/-!
The words that every module understands: names of types, address spaces, texel formats and
values of the pipeline.
-/

namespace ShaderLoom.Wgsl

def scalarWord? : String → Option Scalar
  | "bool" => some .bool
  | "i32" => some .int
  | "u32" => some .uint
  | "f32" => some .float
  | "f64" => some .double
  | _ => none

/-- Sizes and shapes that take the kind of their components as an argument. -/
def shapeWord? : String → Option Shape
  | "vec2" => some (.vector 2)
  | "vec3" => some (.vector 3)
  | "vec4" => some (.vector 4)
  | "mat2x2" => some (.matrix 2 2)
  | "mat2x3" => some (.matrix 2 3)
  | "mat2x4" => some (.matrix 2 4)
  | "mat3x2" => some (.matrix 3 2)
  | "mat3x3" => some (.matrix 3 3)
  | "mat3x4" => some (.matrix 3 4)
  | "mat4x2" => some (.matrix 4 2)
  | "mat4x3" => some (.matrix 4 3)
  | "mat4x4" => some (.matrix 4 4)
  | "array" => some .array
  | _ => none

/-- The kind that a letter behind the name of a vector stands for. -/
def suffixKind? : Char → Option Scalar
  | 'i' => some .int
  | 'u' => some .uint
  | 'f' => some .float
  | _ => none

/-- Short names of vectors and matrices: the kind of the components is the last letter, and
matrices are floating-point. -/
def shortWord? (s : String) : Option TypeRef := do
  let cs := s.toList
  let kind ← suffixKind? (← cs.getLast?)
  match ← shapeWord? (String.ofList cs.dropLast) with
  | .vector n => some (.vector n kind)
  | .matrix c r => if kind = .float then some (.matrix c r kind) else none
  | .array => none

def plainTypeWord? (s : String) : Option TypeRef :=
  match s with
  | "sampler" => some (.sampler false)
  | "sampler_comparison" => some (.sampler true)
  | "acceleration_structure" => some .accelerationStructure
  | "ray_query" => some .rayQuery
  | "RayDesc" => some (.predeclared s)
  | "RayIntersection" => some (.predeclared s)
  | "texture_depth_2d" => some (.texture ⟨.two, false, .depth false⟩)
  | "texture_depth_2d_array" => some (.texture ⟨.two, true, .depth false⟩)
  | "texture_depth_cube" => some (.texture ⟨.cube, false, .depth false⟩)
  | "texture_depth_cube_array" => some (.texture ⟨.cube, true, .depth false⟩)
  | "texture_depth_multisampled_2d" => some (.texture ⟨.two, false, .depth true⟩)
  | _ => ((scalarWord? s).map .scalar).or (shortWord? s)

/-- Textures of samples, whose kind is an argument: dimension, layers, several samples. -/
def sampledTextureWord? : String → Option (Dimension × Bool × Bool)
  | "texture_1d" => some (.one, false, false)
  | "texture_1d_array" => some (.one, true, false)
  | "texture_2d" => some (.two, false, false)
  | "texture_2d_array" => some (.two, true, false)
  | "texture_3d" => some (.three, false, false)
  | "texture_cube" => some (.cube, false, false)
  | "texture_cube_array" => some (.cube, true, false)
  | "texture_multisampled_2d" => some (.two, false, true)
  | "texture_multisampled_2d_array" => some (.two, true, true)
  | _ => none

/-- Textures of texels, whose format and use are arguments: dimension and layers. -/
def storedTextureWord? : String → Option (Dimension × Bool)
  | "texture_storage_1d" => some (.one, false)
  | "texture_storage_1d_array" => some (.one, true)
  | "texture_storage_2d" => some (.two, false)
  | "texture_storage_2d_array" => some (.two, true)
  | "texture_storage_3d" => some (.three, false)
  | _ => none

def isUnmakeable (s : String) : Bool :=
  s ∈ ["atomic", "binding_array", "sampler", "sampler_comparison", "texture_depth_2d",
    "texture_depth_2d_array", "texture_depth_cube", "texture_depth_cube_array",
    "texture_depth_multisampled_2d"] ||
    (sampledTextureWord? s).isSome || (storedTextureWord? s).isSome

def floatFormats : List String :=
  ["r8unorm", "r8snorm", "r16unorm", "r16snorm", "r16float", "rg8unorm", "rg8snorm", "r32float",
   "rg16unorm", "rg16snorm", "rg16float", "rgba8unorm", "rgba8snorm", "rgb10a2unorm",
   "rg11b10float", "rg32float", "rgba16unorm", "rgba16snorm", "rgba16float", "rgba32float",
   "bgra8unorm"]

def uintFormats : List String :=
  ["r8uint", "r16uint", "rg8uint", "r32uint", "rg16uint", "rgba8uint", "rgb10a2uint", "rg32uint",
   "rgba16uint", "rgba32uint"]

def intFormats : List String :=
  ["r8sint", "r16sint", "rg8sint", "r32sint", "rg16sint", "rgba8sint", "rg32sint", "rgba16sint",
   "rgba32sint"]

def formatKind? (s : String) : Option Scalar :=
  if s ∈ floatFormats then some .float
  else if s ∈ uintFormats then some .uint
  else if s ∈ intFormats then some .int
  else none

def accessWord? : String → Option Access
  | "read" => some ⟨true, false⟩
  | "write" => some ⟨false, true⟩
  | "read_write" => some ⟨true, true⟩
  | _ => none

/-- Address spaces; storage is only read where nothing else is said. -/
def spaceWord? : String → Option Space
  | "function" => some .function
  | "private" => some .invocation
  | "workgroup" => some .workgroup
  | "uniform" => some .uniform
  | "storage" => some (.storage ⟨true, false⟩)
  | "push_constant" => some .pushed
  | _ => none

def signalWord? : String → Option Signal
  | "position" => some (.position false)
  | "vertex_index" => some .vertexIndex
  | "instance_index" => some .instanceIndex
  | "view_index" => some .viewIndex
  | "front_facing" => some .frontFacing
  | "frag_depth" => some .fragDepth
  | "primitive_index" => some .primitiveIndex
  | "sample_index" => some .sampleIndex
  | "sample_mask" => some .sampleMask
  | "global_invocation_id" => some .globalInvocationId
  | "local_invocation_id" => some .localInvocationId
  | "local_invocation_index" => some .localInvocationIndex
  | "workgroup_id" => some .workgroupId
  | "num_workgroups" => some .numWorkgroups
  | _ => none

def interpolationWord? : String → Option Interpolation
  | "perspective" => some .perspective
  | "linear" => some .linear
  | "flat" => some .flat
  | _ => none

/-- Where between the samples of a pixel a value is interpolated. -/
def isSampling (s : String) : Bool := s ∈ ["center", "centroid", "sample"]

/-- How a depth may change after the test that comes before the fragment stage. -/
def isDepthChange (s : String) : Bool := s ∈ ["greater_equal", "less_equal", "unchanged"]

def literalWord? : String → Option Literal
  | "true" => some (.bool true)
  | "false" => some (.bool false)
  | "RAY_FLAG_NONE" => some (.uint 0)
  | "RAY_FLAG_TERMINATE_ON_FIRST_HIT" => some (.uint 4)
  | "RAY_QUERY_INTERSECTION_NONE" => some (.uint 0)
  | _ => none

end ShaderLoom.Wgsl
