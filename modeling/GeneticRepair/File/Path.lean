/-!
# Paths

Paths of files as texts, with slashes between their parts. Nothing here looks at a file: `..` steps
back to the part before it, and a path that begins with exactly two slashes keeps both.
-/

namespace GeneticRepair.Path

def isAbsolute (p : String) : Bool :=
  p.toList.head? == some '/'

def join (a b : String) : String :=
  if isAbsolute b then b
  else if a.isEmpty || a.toList.getLast? == some '/' then a ++ b
  else a ++ "/" ++ b

def rootSlashes (p : String) : Nat :=
  match (p.toList.takeWhile (· == '/')).length with
  | 0 => 0
  | 2 => 2
  | _ => 1

def split (p : String) : List String :=
  (p.toList.splitOn '/').map String.ofList

/-- Takes one part of a path into account; the parts so far come last first. -/
def step (absolute : Bool) (parts : List String) (part : String) : List String :=
  if part == "" || part == "." then parts
  else if part != ".." then part :: parts
  else match parts with
    | [] => if absolute then [] else [".."]
    | ".." :: _ => ".." :: parts
    | _ :: parts => parts

def parts (p : String) : List String :=
  ((split p).foldl (step (isAbsolute p)) []).reverse

def normalize (p : String) : String :=
  let text := String.ofList (List.replicate (rootSlashes p) '/') ++ "/".intercalate (parts p)
  if text.isEmpty then "." else text

def absolute (directory p : String) : String :=
  normalize (join directory p)

def name (p : String) : String :=
  String.ofList (p.toList.reverse.takeWhile (· != '/')).reverse

/-- What precedes the last slash; slashes at its end are dropped if anything else is left. -/
def parent (p : String) : String :=
  let front := p.toList.reverse.dropWhile (· != '/')
  match front.dropWhile (· == '/') with
  | [] => String.ofList front
  | cs => String.ofList cs.reverse

end GeneticRepair.Path
