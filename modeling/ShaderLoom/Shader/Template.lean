/-!
Texts with holes for helper names. A hole holds the position of the helper among those of its
own expression; the name is known only when the expression is lowered.
-/

namespace ShaderLoom

inductive Piece where
  | text (s : String)
  | helper (index : Nat)
  deriving DecidableEq, Repr

abbrev Template := List Piece

namespace Template

def raw (s : String) : Template := [.text s]

/-- A piece with its hole filled. Every hole of an expression has a name; see `Within`. -/
def fill (names : List String) : Piece → String
  | .text s => s
  | .helper i => names.getD i ""

def resolve (names : List String) (t : Template) : String := String.join (t.map (fill names))

/-- All holes are among the first `n`. -/
def Within (n : Nat) (t : Template) : Prop := ∀ i, Piece.helper i ∈ t → i < n

theorem within_raw (n : Nat) (s : String) : Within n (raw s) := by
  intro i h; simp [raw] at h

theorem Within.mono {m n : Nat} {t : Template} (h : Within m t) (hmn : m ≤ n) : Within n t :=
  fun i hi => Nat.lt_of_lt_of_le (h i hi) hmn

end Template

end ShaderLoom
