import ShaderLoom.Config.File

/-!
The disk that configuration files are kept on.

Several paths may lead to one file. A file that is written anew keeps nothing of what it held.
-/

namespace ShaderLoom

structure Disk where
  /-- The name of the file that a path leads to. -/
  resolve : String → String
  content : String → Option ByteArray
  writable : String → Bool

inductive SaveError where
  | unwritable
  deriving DecidableEq, Repr

namespace Disk

def read (d : Disk) (path : String) : Option ByteArray := d.content (d.resolve path)

def write (d : Disk) (path : String) (bytes : ByteArray) : Except SaveError Disk :=
  let file := d.resolve path
  if d.writable file then
    .ok { d with content := fun f => if f = file then some bytes else d.content f }
  else .error .unwritable

/-- A file that can be written at all is written, and then holds what was written. -/
theorem exists_write {d : Disk} {path : String} (h : d.writable (d.resolve path) = true)
    (bytes : ByteArray) : ∃ e, d.write path bytes = .ok e ∧ e.read path = some bytes := by
  refine ⟨_, if_pos h, ?_⟩
  simp [read]

end Disk

namespace Settings

def loadFrom (path : String) (d : Disk) : Except LoadError Settings := load (d.read path)

def save (s : Settings) (path : String) (d : Disk) : Except SaveError Disk :=
  d.write path s.toText.toUTF8

end Settings

end ShaderLoom
