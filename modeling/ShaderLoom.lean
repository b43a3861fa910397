import ShaderLoom.App.Launch
import ShaderLoom.App.Options
import ShaderLoom.Config.Decode
import ShaderLoom.Config.Disk
import ShaderLoom.Config.File
import ShaderLoom.Config.Settings
import ShaderLoom.Diagnostics.Fault
import ShaderLoom.Diagnostics.Journal
import ShaderLoom.Diagnostics.Ledger
import ShaderLoom.Diagnostics.Severity
import ShaderLoom.Diagnostics.Sink
import ShaderLoom.Diagnostics.Verbosity
import ShaderLoom.Frame.Clock
import ShaderLoom.Frame.Gate
import ShaderLoom.Frame.Pipeline
import ShaderLoom.Frame.Playback
import ShaderLoom.Frame.Rates
import ShaderLoom.Frame.Redraw
import ShaderLoom.Frame.Ticks
import ShaderLoom.Frame.Timescale
import ShaderLoom.Frame.Uniforms
import ShaderLoom.Main
import ShaderLoom.Number.Binary
import ShaderLoom.Number.Binary32
import ShaderLoom.Number.Fixed
import ShaderLoom.Number.Literal
import ShaderLoom.Number.Nearest
import ShaderLoom.Number.Power
import ShaderLoom.Number.Rounding
import ShaderLoom.Number.Shortest
import ShaderLoom.Proofs.Lowering
import ShaderLoom.Shader.Chain
import ShaderLoom.Shader.Demo
import ShaderLoom.Shader.Expression
import ShaderLoom.Shader.Fragment
import ShaderLoom.Shader.Literal
import ShaderLoom.Shader.NameSupply
import ShaderLoom.Shader.Program
import ShaderLoom.Shader.Recipe
import ShaderLoom.Shader.Statement
import ShaderLoom.Shader.Template
import ShaderLoom.Shader.Validation
import ShaderLoom.Shader.ValueType
import ShaderLoom.Text.Blank
import ShaderLoom.Text.Column
import ShaderLoom.Text.Lines
import ShaderLoom.Toml.Characters
import ShaderLoom.Toml.Document
import ShaderLoom.Toml.Quoted
import ShaderLoom.Toml.Scalar
import ShaderLoom.Toml.Strings
import ShaderLoom.Toml.Table
import ShaderLoom.Toml.Value
import ShaderLoom.Wgsl.Builtin
import ShaderLoom.Wgsl.Call
import ShaderLoom.Wgsl.Check
import ShaderLoom.Wgsl.Complaint
import ShaderLoom.Wgsl.Constant
import ShaderLoom.Wgsl.Construction
import ShaderLoom.Wgsl.Conversion
import ShaderLoom.Wgsl.Declaration
import ShaderLoom.Wgsl.Entry
import ShaderLoom.Wgsl.Evaluation
import ShaderLoom.Wgsl.Flow
import ShaderLoom.Wgsl.Grammar.Declaration
import ShaderLoom.Wgsl.Grammar.Expression
import ShaderLoom.Wgsl.Grammar.Statement
import ShaderLoom.Wgsl.Layout
import ShaderLoom.Wgsl.Letter
import ShaderLoom.Wgsl.Literal
import ShaderLoom.Wgsl.Memory
import ShaderLoom.Wgsl.Module
import ShaderLoom.Wgsl.Numeral
import ShaderLoom.Wgsl.Operand
import ShaderLoom.Wgsl.Operation
import ShaderLoom.Wgsl.Operator
import ShaderLoom.Wgsl.Order
import ShaderLoom.Wgsl.Ray
import ShaderLoom.Wgsl.Reader
import ShaderLoom.Wgsl.Scalar
import ShaderLoom.Wgsl.Selection
import ShaderLoom.Wgsl.Steps
import ShaderLoom.Wgsl.Texture
import ShaderLoom.Wgsl.Token
import ShaderLoom.Wgsl.Tree
import ShaderLoom.Wgsl.Type
import ShaderLoom.Wgsl.Vocabulary
import ShaderLoom.Proofs.Assembly
import ShaderLoom.Proofs.Hygiene
import ShaderLoom.Proofs.SourceText
import ShaderLoom.Proofs.FrameRate
import ShaderLoom.Proofs.Compilation
import ShaderLoom.Proofs.ChainFaults
import ShaderLoom.Proofs.TickSources
import ShaderLoom.Proofs.FrameContent
import ShaderLoom.Proofs.DoubleRounding
import ShaderLoom.Proofs.DoubleArithmetic
import ShaderLoom.Proofs.DueInstants
import ShaderLoom.Proofs.Statistics
import ShaderLoom.Proofs.SessionIndependence
import ShaderLoom.Proofs.Reentrancy
import ShaderLoom.Proofs.QuotedStrings
import ShaderLoom.Proofs.WrittenDocument
import ShaderLoom.Proofs.GivenSettings
import ShaderLoom.Proofs.SavedSettings
import ShaderLoom.Proofs.PartialSettings
import ShaderLoom.Proofs.DroppedTicks
import ShaderLoom.Proofs.RateCap
import ShaderLoom.Proofs.Orthogonality
import ShaderLoom.Proofs.Arguments
import ShaderLoom.Proofs.Launching
import ShaderLoom.Proofs.TextLines
import ShaderLoom.Proofs.BodyLines
import ShaderLoom.Proofs.RawCode
import ShaderLoom.Proofs.Requests
import ShaderLoom.Proofs.JoinedArguments
import ShaderLoom.Proofs.RollingAverage
import ShaderLoom.Proofs.NumberedSource
import ShaderLoom.Proofs.NearestNumber
import ShaderLoom.Proofs.ShortestDecimal
import ShaderLoom.Proofs.WrittenNumber
import ShaderLoom.Proofs.FloatLiterals
