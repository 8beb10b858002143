import Reconcile.Text.Segments
import Reconcile.Store.Table

/-!
The property text: one `key=value` pair a line. Backslashes, equals signs and line breaks of keys
and values are written with a backslash, so that a line is cut at its first bare equals sign.
-/

namespace Reconcile.PropertyText

def escapeChar (c : Char) : List Char :=
  match c with
  | '\\' => ['\\', '\\']
  | '=' => ['\\', '=']
  | '\n' => ['\\', 'n']
  | '\r' => ['\\', 'r']
  | c => [c]

def escape (text : List Char) : List Char := text.flatMap escapeChar

def unescapeChar (c : Char) : Char :=
  match c with
  | 'n' => '\n'
  | 'r' => '\r'
  | c => c

/-- Reads the value of a line, in which equals signs are plain. A backslash at the very end
stands for itself. -/
def readValue : List Char → List Char
  | [] => []
  | '\\' :: c :: rest => unescapeChar c :: readValue rest
  | c :: rest => c :: readValue rest

/-- Reads a line: the key up to the first bare equals sign, then the value. Without a bare equals
sign the line is malformed. -/
def splitLine : List Char → Option (List Char × List Char)
  | [] => none
  | '=' :: rest => some ([], readValue rest)
  | '\\' :: c :: rest => (splitLine rest).map fun (key, value) => (unescapeChar c :: key, value)
  | c :: rest => (splitLine rest).map fun (key, value) => (c :: key, value)

def trimReturn (line : List Char) : List Char :=
  if line.getLast? = some '\r' then line.dropLast else line

/-- The lines of a text. A line feed ends a line, together with a carriage return before it; the
last line may lack its line feed and then keeps its carriage return. -/
def lines (text : List Char) : List (List Char) :=
  let pieces := Text.segments '\n' text
  pieces.dropLast.map trimReturn ++ (pieces.getLast?.toList.filter fun last => !last.isEmpty)

/-- What was read from a text: the entries, and the numbers of the lines that hold none. -/
structure Reading where
  table : Table := Table.empty
  malformed : List Nat := []

/-- The entry of a line. Empty lines and malformed ones hold none. -/
def readLine (line : List Char) : Option (String × String) :=
  (splitLine line).map fun (key, value) => (String.ofList key, String.ofList value)

def isMalformed (line : List Char) : Bool := !line.isEmpty && (splitLine line).isNone

/-- Reads a whole text; its lines are numbered from one. A repeated key takes the later value. -/
def read (text : String) : Reading :=
  let lines := lines text.toList
  { table := Table.ofList (lines.filterMap readLine)
    malformed := ((lines.zipIdx 1).filter fun line => isMalformed line.1).map Prod.snd }

def parse (text : String) : Table := (read text).table

def renderEntry (entry : String × String) : List Char :=
  escape entry.1.toList ++ '=' :: escape entry.2.toList ++ ['\n']

def render (table : Table) : String := String.ofList (table.toList.flatMap renderEntry)

end Reconcile.PropertyText
