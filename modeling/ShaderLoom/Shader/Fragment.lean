import ShaderLoom.Shader.Statement
import ShaderLoom.Text.Lines

/-!
A fragment function before it is written, and its text.

The headers come first, joined by newlines and followed by a blank line; then the opening of
the function, the lines of each statement, the returned colour and the closing brace. A line
of a statement is indented by four blanks, except an empty one, which stays empty.
-/

namespace ShaderLoom

structure Fragment where
  headers : List String
  body : List Statement
  color : String
  deriving DecidableEq, Repr

namespace Fragment

def entryPoint : String := "pixel_main"

/-- The opening binds the coordinate, the time and the resolution as variables, so that the
body may assign to them. -/
def preamble : String :=
  "@fragment\n" ++
  "fn pixel_main(vertex_out: VertexOut) -> @location(0) vec4<f32> \x7b\n" ++
  "    var uv = vertex_out.uv;\n" ++
  "    var time = uniforms.time;\n" ++
  "    var resolution = uniforms.resolution;"

def closing : String := "\x7d"

def indent : String := "    "

def headerText : List String → String
  | [] => ""
  | hs => String.intercalate "\n" hs ++ "\n\n"

/-- One line of the body, with its end. -/
def bodyLine (l : String) : String := if l = "" then "\n" else indent ++ l ++ "\n"

def statementText (s : Statement) : String := String.join ((Text.lines s.text).map bodyLine)

def returnText (color : String) : String := indent ++ "return vec4<f32>(" ++ color ++ ");\n"

def render (f : Fragment) : String :=
  headerText f.headers ++ preamble ++ "\n" ++ String.join (f.body.map statementText) ++
    returnText f.color ++ closing ++ "\n"

end Fragment

end ShaderLoom
