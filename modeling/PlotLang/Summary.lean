import PlotLang.Number.Decimal
import PlotLang.Program

/-! # Summaries

A program in a few lines: its definitions, its canvas, its grid and what kinds of shapes it has.
-/

namespace PlotLang.Summary

def number (x : Binary64) : String := Decimal.general x 6

def definition (d : Definition) : String :=
  let label := match d.name with
    | some name => " \"" ++ name ++ "\""
    | none => ""
  "define " ++ d.identifier ++ label ++ ": [" ++ number d.minimum ++ ", " ++ number d.maximum ++ "]"

def root (r : Root) : String :=
  let box := ", ".intercalate ([r.box.x, r.box.y, r.box.width, r.box.height].map number)
  "root: box=(" ++ box ++ ") axes=(" ++ r.xAxis.identifier ++ ", " ++ r.yAxis.identifier ++
    ") color=" ++ r.color ++ " background=" ++ r.background

def grid : Option Grid → String
  | none => "grid: none"
  | some g =>
    "grid: color=" ++ g.color ++ " alpha=" ++ number g.alpha ++ " thickness=" ++
      number g.thickness ++ " step=" ++ number g.step

def kind : Shape → String
  | .line .. => "line"
  | .graph .. => "graph"
  | .point .. => "point"

def shapes (ss : List Shape) : String :=
  let kinds := if ss.isEmpty then "" else " (" ++ ", ".intercalate (ss.map kind) ++ ")"
  "shapes: " ++ toString ss.length ++ kinds

def lines (p : Program) : List String :=
  p.definitions.map definition ++ [root p.root, grid p.grid, shapes p.shapes]

end PlotLang.Summary
