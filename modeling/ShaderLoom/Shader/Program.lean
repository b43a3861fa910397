import ShaderLoom.Shader.Fragment

/-!
A finished fragment program, and the whole module that a backend compiles: the vertex stage,
a newline, and the program.
-/

namespace ShaderLoom

structure Program where
  source : String
  deriving DecidableEq, Repr

namespace Program

def vertexEntryPoint : String := "vertex_main"

/-- One triangle that covers the viewport, and the coordinate in the unit square. -/
def vertexStage : String :=
  "struct Uniforms \x7b\n" ++
  "    time: f32,\n" ++
  "    resolution: vec2<f32>,\n" ++
  "\x7d;\n" ++
  "\n" ++
  "@group(0) @binding(0)\n" ++
  "var<uniform> uniforms: Uniforms;\n" ++
  "\n" ++
  "struct VertexOut \x7b\n" ++
  "    @builtin(position) position: vec4<f32>,\n" ++
  "    @location(0) uv: vec2<f32>,\n" ++
  "\x7d;\n" ++
  "\n" ++
  "@vertex\n" ++
  "fn vertex_main(@builtin(vertex_index) vertex_id: u32) -> VertexOut \x7b\n" ++
  "    var positions = array<vec2<f32>, 3>(\n" ++
  "        vec2<f32>(-1.0, -1.0),\n" ++
  "        vec2<f32>(3.0, -1.0),\n" ++
  "        vec2<f32>(-1.0, 3.0),\n" ++
  "    );\n" ++
  "    let position = positions[vertex_id];\n" ++
  "\n" ++
  "    var result: VertexOut;\n" ++
  "    result.position = vec4<f32>(position, 0.0, 1.0);\n" ++
  "    result.uv = (position + vec2<f32>(1.0, 1.0)) * 0.5;\n" ++
  "    return result;\n" ++
  "\x7d\n"

def moduleText (p : Program) : String := vertexStage ++ "\n" ++ p.source

end Program

end ShaderLoom
