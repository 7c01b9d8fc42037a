import Tablewright.Sql.Operator

/-!
# Splitting conditions

The part of a method name that names conditions is cut at `And` and `Or`, from left to right; empty
pieces vanish with their connectors.
-/

namespace Tablewright.Query

open Sql (Connector)

/-- The text of one condition and the connector after it. -/
structure Piece where
  /-- The text. -/
  text : List Char
  /-- The connector to the next condition. -/
  connector : Option Connector
  deriving DecidableEq, Repr

/-- How condition texts are cut into pieces. -/
abbrev Splitter := List Char → List Piece

/-- The spelling of a connector in a name. -/
def connectorSpelling : Connector → List Char
  | .and => "And".toList
  | .or => "Or".toList

theorem connectorSpelling_and : connectorSpelling .and = ['A', 'n', 'd'] := by
  decide

theorem connectorSpelling_or : connectorSpelling .or = ['O', 'r'] := by
  decide

/-- The piece with the given characters, last first; none if there are none. -/
def closed
    (back : List Char)
    (connector : Option Connector) : List Piece :=
  if back.isEmpty then [] else [{ text := back.reverse, connector }]

/-- Pieces of the text that follows the open piece given last character first. -/
def piecesAfter (back : List Char) : List Char → List Piece
  | 'A' :: 'n' :: 'd' :: rest => closed back (some .and) ++ piecesAfter [] rest
  | 'O' :: 'r' :: rest => closed back (some .or) ++ piecesAfter [] rest
  | c :: rest => piecesAfter (c :: back) rest
  | [] => closed back none

/-- Pieces between the connectors of a text. -/
def pieces : Splitter :=
  piecesAfter []

/-- A text taken as one piece, whatever it holds. -/
def wholePiece : Splitter :=
  fun cs => [{ text := cs, connector := none }]

end Tablewright.Query
