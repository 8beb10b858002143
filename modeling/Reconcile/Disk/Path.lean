import Reconcile.Text.Segments

/-!
Paths as texts with slashes. A path is kept as its segments between the slashes, and nothing is
normalised: `text` gives back the text that was read.
-/

namespace Reconcile

structure Path where
  segments : List String
  deriving DecidableEq, Inhabited

namespace Path

def ofText (text : String) : Path :=
  ⟨(Text.segments '/' text.toList).map String.ofList⟩

def text (path : Path) : String := "/".intercalate path.segments

def isAbsolute (path : Path) : Bool :=
  match path.segments with
  | "" :: _ :: _ => true
  | _ => false

/-- Puts one path below another. A slash is added unless the upper path is empty or ends in one;
an absolute lower path stands for itself. -/
def join (upper lower : Path) : Path :=
  if lower.isAbsolute then lower
  else if upper.segments.getLast? = some "" then ⟨upper.segments.dropLast ++ lower.segments⟩
  else ⟨upper.segments ++ lower.segments⟩

instance : HDiv Path String Path := ⟨fun upper lower => upper.join (ofText lower)⟩

/-- Whether a segment after the first names nothing of its own. -/
def isBlank (segment : String) : Bool := segment == "" || segment == "."

/-- The segments without the blank ones at the end; the first one always stays. -/
def trimmed : List String → List String
  | [] => []
  | first :: rest => first :: (rest.reverse.dropWhile isBlank).reverse

/-- The path above, if there is one: all but the last component. -/
def parent? (path : Path) : Option Path :=
  match trimmed path.segments with
  | [] => none
  | [first] => if first = "" then none else some ⟨[""]⟩
  | first :: rest =>
    match trimmed (first :: rest.dropLast) with
    | [""] => some ⟨["", ""]⟩
    | above => some ⟨above⟩

def fileName? (path : Path) : Option String :=
  (trimmed path.segments).getLast?.filter fun name => !isBlank name && name != ".."

def withFileName (path : Path) (name : String) : Path :=
  if path.fileName?.isSome then (path.parent?.getD ⟨[""]⟩) / name else path / name

end Path

end Reconcile
