import PlotLang.Number.Binary64

/-! # Plot programs

A program names value ranges, configures one canvas and lists shapes to draw on it.
-/

namespace PlotLang

structure Point where
  x : Binary64
  y : Binary64
  deriving DecidableEq

/-- A named range of values. -/
structure Definition where
  identifier : String
  name : Option String
  minimum : Binary64
  maximum : Binary64
  deriving DecidableEq

structure Box where
  x : Binary64
  y : Binary64
  width : Binary64
  height : Binary64
  deriving DecidableEq

structure Root where
  box : Box
  color : String
  background : String
  xAxis : Definition
  yAxis : Definition
  deriving DecidableEq

structure Grid where
  color : String
  alpha : Binary64
  thickness : Binary64
  step : Binary64
  deriving DecidableEq

inductive Shape where
  | line (start finish : Point) (name color : Option String) (thickness : Option Binary64)
  | graph (function : String) (name color : Option String) (thickness : Option Binary64)
  | point (location : Point) (name color : Option String)
  deriving DecidableEq

structure Program where
  definitions : List Definition
  root : Root
  grid : Option Grid
  shapes : List Shape
  deriving DecidableEq

def defaultStroke : String := "000000"

def defaultBackground : String := "ffffff"

def Grid.default : Grid := ⟨defaultStroke, .ofRatio false 1 2, 1, 1⟩

end PlotLang
