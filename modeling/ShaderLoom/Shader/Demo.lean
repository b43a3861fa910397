import ShaderLoom.Shader.Recipe

/-!
The programs that come with the application.
-/

namespace ShaderLoom

structure Demo where
  name : String
  recipe : Recipe

namespace Demo

def declare (type : ValueType) (name : String) (call : ExprCall) : Step :=
  .declare type ⟨name, [call]⟩

def assign (op : AssignOp) (name : String) (call : ExprCall) : Step := .assign op ⟨name, [call]⟩

def bubbles : Demo where
  name := "bubbles"
  recipe :=
    { steps :=
        [declare .float "disk" (.circle ⟨0x3f000000⟩ ⟨0x3f000000⟩ ⟨0x3e99999a⟩ true),
         declare .float "ripple"
           (.wave .x Expression.defaultFrequency Expression.defaultSpeed),
         assign .add "ripple" (.wave .y ⟨0x41600000⟩ ⟨0x40000000⟩),
         declare .float "grain" (.noise Expression.defaultScale),
         declare .float3 "color" (.expression "vec3<f32>(0.2, 0.6, 1.0) * disk"),
         assign .add "color" (.expression "vec3<f32>(ripple * 0.1)"),
         assign .sub "color" (.expression "vec3<f32>(grain * 0.05)")]
      color := .text "color, 1.0" }

def pulsatingRadial : Demo where
  name := "pulsating-radial"
  recipe :=
    { steps :=
        [declare .float2 "uvc" (.expression "uv - 0.5"),
         declare .float "dist" (.expression "length(uvc)"),
         declare .float "pulse" (.expression "sin(time * 5.0) * 0.5 + 0.5"),
         declare .float "intensity"
           (.expression "1.0 - smoothstep(0.0, 0.2 + 0.1 * pulse, dist)")]
      color := .text "intensity, intensity, intensity, 1.0" }

def electricGrid : Demo where
  name := "electric-grid"
  recipe :=
    { steps :=
        [declare .float2 "scaled" (.expression "uv * 20.0"),
         declare .float "line_x" (.expression "step(0.02, fract(scaled.x))"),
         declare .float "line_y" (.expression "step(0.02, fract(scaled.y))"),
         declare .float "grid" (.expression "line_x * line_y"),
         declare .float "glow" (.expression "sin(time * 10.0 + uv.x * 20.0) * 0.5 + 0.5"),
         declare .float "intensity" (.expression "1.0 - grid * glow"),
         declare .float3 "color" (.expression "vec3<f32>(0.0, 1.0, 1.0) * intensity")]
      color := .text "color, 1.0" }

def tunnelWarp : Demo where
  name := "tunnel-warp"
  recipe :=
    { steps :=
        [declare .float2 "uvc" (.expression "uv - 0.5"),
         declare .float "angle" (.expression "atan2(uvc.y, uvc.x)"),
         declare .float "radius" (.expression "length(uvc)"),
         declare .float "warp" (.expression "sin(10.0 * radius - time * 5.0)"),
         declare .float "shade" (.expression "0.5 + 0.5 * warp"),
         declare .float "r" (.expression "0.5 + 0.5 * sin(angle + time)"),
         declare .float "g" (.expression "0.5 + 0.5 * sin(angle + time + 2.0)"),
         declare .float "b" (.expression "0.5 + 0.5 * sin(angle + time + 4.0)")]
      color := .text "shade * vec3<f32>(r, g, b), 1.0" }

def checkerboard : Demo where
  name := "checkerboard"
  recipe :=
    { steps :=
        [declare .float2 "cells" (.expression "uv * vec2<f32>(5.0, 10.0)"),
         assign .add "cells" (.expression "time * 0.5"),
         declare .float "checker"
           (.expression "step(0.5, fract(cells.x)) + step(0.5, fract(cells.y))"),
         assign .set "checker" (.expression "checker % 2.0"),
         declare .float "cv" (.expression "select(0.0, 1.0, checker > 0.5)")]
      color := .text "cv, cv, cv, 1.0" }

/-- In the order in which they are listed. -/
def every : List Demo := [bubbles, pulsatingRadial, electricGrid, tunnelWarp, checkerboard]

def names : List String := every.map (·.name)

/-- The program of a demo, by its name. -/
def program (name : String) : Journal (Except Fault Program) :=
  match every.find? (·.name = name) with
  | some demo => demo.recipe.assemble
  | none => pure (.error (.config (.unknownDemo name)))

end Demo

end ShaderLoom
