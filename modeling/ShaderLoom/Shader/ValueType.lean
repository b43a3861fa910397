/-!
The types an expression can be declared with: a number, or a vector of two to four of them.
-/

namespace ShaderLoom

inductive ValueType where
  | float | float2 | float3 | float4
  deriving DecidableEq, Repr

namespace ValueType

def every : List ValueType := [float, float2, float3, float4]

def name : ValueType → String
  | float => "f32"
  | float2 => "vec2<f32>"
  | float3 => "vec3<f32>"
  | float4 => "vec4<f32>"

def components : ValueType → Nat
  | float => 1
  | float2 => 2
  | float3 => 3
  | float4 => 4

end ValueType

end ShaderLoom
