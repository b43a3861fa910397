/-!
Cutting a text into lines.

A line ends at a newline. One carriage return just before that newline belongs to the line
end; any other carriage return belongs to the line. Text after the last newline is a line of
its own, unless it is empty.
-/

namespace ShaderLoom.Text

/-- What is known of the text to the right of a character: whether it begins with a newline,
and its lines. -/
structure Cut where
  atNewline : Bool
  lines : List (List Char)

def Cut.empty : Cut := ⟨false, []⟩

/-- One character more in front of the first line. -/
def extend (c : Char) : List (List Char) → List (List Char)
  | [] => [[c]]
  | l :: ls => (c :: l) :: ls

def Cut.push (c : Char) (s : Cut) : Cut :=
  if c = '\n' then ⟨true, [] :: s.lines⟩
  else if c = '\r' && s.atNewline then ⟨false, s.lines⟩
  else ⟨false, extend c s.lines⟩

def cut (cs : List Char) : Cut := cs.foldr Cut.push Cut.empty

def linesOf (cs : List Char) : List (List Char) := (cut cs).lines

/-- The lines of a text, without their ends. -/
def lines (s : String) : List String := (linesOf s.toList).map String.ofList

@[simp] theorem cut_nil : cut [] = Cut.empty := rfl
@[simp] theorem cut_cons (c : Char) (cs : List Char) : cut (c :: cs) = (cut cs).push c := rfl

@[simp] theorem linesOf_nil : linesOf [] = [] := rfl

@[simp] theorem linesOf_newline (cs : List Char) : linesOf ('\n' :: cs) = [] :: linesOf cs := rfl

@[simp] theorem linesOf_return_newline (cs : List Char) :
    linesOf ('\r' :: '\n' :: cs) = [] :: linesOf cs := rfl

example : linesOf "a\n\r\r\n\nb\r".toList = [['a'], ['\r'], [], ['b', '\r']] := by decide

end ShaderLoom.Text
