import Scaffold.Text.Lines
import Scaffold.View.Theme

/-!
# Pieces of a view

A line of a view is made of pieces: literal text, and the places where a theme comes in. A theme
turns a piece into text; `Theme.render` does so with whole lines. So two themes render a view alike
but for those places.
-/

namespace Scaffold.View

/-- A piece of a line. -/
inductive Piece where
  | text (s : String)
  /-- The class attribute of a token. -/
  | classes (token : ClassToken)
  /-- The directory of the framework's components. -/
  | componentDir
  /-- The module that modal windows come from. -/
  | modalModule
deriving Repr, DecidableEq

instance : Coe String Piece := ⟨.text⟩

instance : Coe ClassToken Piece := ⟨.classes⟩

abbrev Line := List Piece

/-- Lines that are given piece by piece. -/
abbrev markup (lines : List Line) : List Line := lines

/-- Lines without places for a theme. -/
def plain (lines : List String) : List Line :=
  lines.map fun s => [.text s]

/-- Lines with the same blanks in front of each. -/
def indented (blanks : String) (lines : List Line) : List Line :=
  lines.map (.text blanks :: ·)

end Scaffold.View

namespace Scaffold.Theme

open View

def piece (t : Theme) : Piece → String
  | .text s => s
  | .classes token => t.classAttribute token
  | .componentDir => t.componentDir
  | .modalModule => t.modalModule

def line (t : Theme) (pieces : Line) : String :=
  String.join (pieces.map t.piece)

def render (t : Theme) (lines : List Line) : String :=
  Text.joinLines (lines.map t.line)

end Scaffold.Theme
