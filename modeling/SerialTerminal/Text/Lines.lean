/-!
# Lines of text

Lines end with a line feed, a carriage return or both. What follows the last line end is a line of
its own, if it is not empty.

A configuration file (`SPEC_FULL.md` §10) is read line by line.
-/

namespace SerialTerminal.Text

/-- A text with every line end written as a line feed. -/
def normalizeLineEnds : List Char → List Char
  | [] => []
  | '\r' :: '\n' :: rest => '\n' :: normalizeLineEnds rest
  | '\r' :: rest => '\n' :: normalizeLineEnds rest
  | c :: rest => c :: normalizeLineEnds rest

/-- The pieces of a text between its line feeds. There is always at least one. -/
def pieces : List Char → List (List Char)
  | [] => [[]]
  | c :: rest =>
    if c = '\n' then [] :: pieces rest
    else
      match pieces rest with
      | [] => [[c]]
      | first :: others => (c :: first) :: others

/-- The lines that have an end. -/
def finishedLines (text : List Char) : List (List Char) :=
  (pieces (normalizeLineEnds text)).dropLast

/-- All lines of a text. -/
def lines (text : List Char) : List (List Char) :=
  let all := pieces (normalizeLineEnds text)
  if all.getLast? = some [] then all.dropLast else all

/-- The lines that are known to be finished while more text may follow: a carriage return at the
end may still get its line feed. -/
def settledLines (text : List Char) : List (List Char) :=
  finishedLines (if text.getLast? = some '\r' then text.dropLast else text)

end SerialTerminal.Text
