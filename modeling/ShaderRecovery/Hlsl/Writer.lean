/-!
# Indented line writer

Text is built line by line; each line is indented by `depth × width` spaces.
Raising the depth and lowering it again are separate steps, and lowering stops
at zero.

Principal results: `dedent_indent` (lowering undoes raising) and `line_text`
(a line appends exactly its indentation, text and newline).
-/

namespace ShaderRecovery

/-- Text written so far, with the current depth and the indentation width. -/
structure LineWriter where
  text : String
  depth : Nat
  width : Nat
  deriving DecidableEq, Repr

namespace LineWriter

def create (depth width : Nat) : LineWriter := ⟨"", depth, width⟩

def indent (w : LineWriter) : LineWriter := { w with depth := w.depth + 1 }

def dedent (w : LineWriter) : LineWriter := { w with depth := w.depth - 1 }

/-- The spaces of the current depth. -/
def margin (w : LineWriter) : String := String.ofList (List.replicate (w.depth * w.width) ' ')

/-- Writes `s` at the current depth, then a newline. -/
def line (w : LineWriter) (s : String) : LineWriter :=
  { w with text := w.text ++ w.margin ++ s ++ "\n" }

/-- Appends text as it is. -/
def raw (w : LineWriter) (s : String) : LineWriter := { w with text := w.text ++ s }

theorem dedent_indent (w : LineWriter) : w.indent.dedent = w := by
  simp [indent, dedent]

theorem line_text (w : LineWriter) (s : String) :
    (w.line s).text = w.text ++ w.margin ++ s ++ "\n" := rfl

end LineWriter

end ShaderRecovery
