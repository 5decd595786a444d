import Denotation.Source.Fault

/-!
# Excerpts of source text

The library of spans in use shows a message below the lines of the span, with a pointer to its last column.
A column is a number of bytes.  All spans count as the same, so faults are told apart by their reasons alone.
-/

namespace Denotation.Source

def withoutReturn (line : List Char) : List Char :=
  if line.getLast? = some '\r' then line.dropLast else line

/-- The lines of a text, of which the first begins with `line`.  A line feed ends a line, so there is
no further line after the last one. -/
def linesFrom (line : List Char) : List Char → List String
  | [] => if line.isEmpty then [] else [String.ofList line]
  | '\n' :: rest => String.ofList (withoutReturn line) :: linesFrom [] rest
  | char :: rest => linesFrom (line ++ [char]) rest

def lines (text : String) : List String := linesFrom [] text.toList

namespace Span

def line (span : Span) (number : Nat) : String := ((lines span.source)[number]?).getD ""

def lineBefore (span : Span) : String :=
  match span.start.line with
  | 0 => ""
  | number + 1 => span.line number

def spaces (count : Nat) : String := String.ofList (List.replicate count ' ')

/-- The lines of the span under their line numbers, and the message under its last column. -/
def excerpt (span : Span) (message : String) : String :=
  let margin := spaces (toString span.stop.line).length ++ " |"
  let further := (List.range (span.stop.line - span.start.line)).map fun offset =>
    margin ++ span.line (span.start.line + 1 + offset)
  String.intercalate "\n" (
    [margin,
      margin ++ span.lineBefore ++ " ",
      toString (span.start.line + 1) ++ " |" ++ span.line span.start.line] ++
    further ++
    [toString (span.stop.line + 2) ++ " |" ++ spaces (span.stop.column - 1) ++ "^--- " ++ message,
      margin])

end Span

instance : SpanLibrary := ⟨Span.excerpt, fun _ _ => true⟩

end Denotation.Source
