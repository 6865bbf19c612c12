/-! # Markup

A document is a tree of elements, written one tag to a line. A text put into an attribute has four
characters replaced by entities, so that it never ends the attribute it stands in. The ampersand is
replaced first: those of the entities put in later stay as they are.
-/

namespace PlotLang.Markup

def replaceChar (c : Char) (entity : String) (cs : List Char) : List Char :=
  cs.flatMap fun d => if d = c then entity.toList else [d]

def escape (cs : List Char) : List Char :=
  let amp := replaceChar '&' "&amp;" cs
  let lt := replaceChar '<' "&lt;" amp
  let gt := replaceChar '>' "&gt;" lt
  replaceChar '"' "&quot;" gt

/-- A name with its value as it stands between the quotes. -/
structure Attribute where
  name : String
  value : List Char
  deriving DecidableEq, Repr

namespace Attribute

/-- A value that needs no entities. -/
def plain (name value : String) : Attribute := ⟨name, value.toList⟩

def text (name content : String) : Attribute := ⟨name, escape content.toList⟩

def write (a : Attribute) : List Char :=
  ' ' :: a.name.toList ++ '=' :: '"' :: a.value ++ ['"']

end Attribute

inductive Element where
  | empty (name : String) (attributes : List Attribute)
  | parent (name : String) (attributes : List Attribute) (children : List Element)

namespace Element

def opening (name : String) (attributes : List Attribute) : List Char :=
  '<' :: name.toList ++ attributes.flatMap Attribute.write

def indent (depth : Nat) : List Char := List.replicate (2 * depth) ' '

mutual

def lines (depth : Nat) : Element → List (List Char)
  | .empty name attributes => [indent depth ++ opening name attributes ++ " />".toList]
  | .parent name attributes children =>
    (indent depth ++ opening name attributes ++ ['>']) ::
      (linesAll (depth + 1) children ++ [indent depth ++ "</".toList ++ name.toList ++ ['>']])

def linesAll (depth : Nat) : List Element → List (List Char)
  | [] => []
  | e :: es => lines depth e ++ linesAll depth es

end

end Element

structure Document where
  declared : Bool
  root : Element

def declaration : List Char := "<?xml version=\"1.0\" encoding=\"UTF-8\"?>".toList

namespace Document

def lines (d : Document) : List (List Char) :=
  (if d.declared then [declaration] else []) ++ d.root.lines 0

/-- Each line ends in a line feed. -/
def text (d : Document) : List Char := d.lines.flatMap (· ++ ['\n'])

end Document

end PlotLang.Markup
