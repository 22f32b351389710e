import GeneticRepair.Collection.Entries
import GeneticRepair.File.Path
import GeneticRepair.Text.Lines
/-!
# File trees

The files below one root, with their contents, and the directories that were made. A directory also
exists because something in it exists. All paths are seen from the root.
-/

namespace GeneticRepair

inductive FileError where
  | notFound
  | exists
  | isDirectory
  | notDirectory
  | nullCharacter
  | nameTooLong
  deriving Repr, DecidableEq

structure FileTree where
  files : List (List String × ByteArray)
  directories : List (List String)

namespace FileTree

def empty : FileTree :=
  ⟨[], []⟩

def hasFile (t : FileTree) (parts : List String) : Bool :=
  t.files.any (·.1 == parts)

def hasDirectory (t : FileTree) (parts : List String) : Bool :=
  parts.isEmpty || t.directories.contains parts ||
    t.directories.any (parts.isPrefixOf ·) ||
    t.files.any fun (file, _) => parts.isPrefixOf file && parts != file

/-! ## Finding the way -/

def longestName : Nat := 255

def longestPath : Nat := 4095

def stepFrom (directory : List String) (part : String) : Except FileError (List String) :=
  if part == "" || part == "." then return directory
  else if part == ".." then return directory.dropLast
  else if longestName < part.utf8ByteSize then throw .nameTooLong
  else return directory ++ [part]

def checkDirectory (t : FileTree) (parts : List String) : Except FileError Unit :=
  if t.hasDirectory parts then return
  else throw (if t.hasFile parts then .notDirectory else .notFound)

/-- Walks from a directory. Every step is made in a directory that exists, also one back. -/
def walk (t : FileTree) (directory : List String) : List String → Except FileError (List String)
  | [] => return directory
  | part :: rest => do
    t.checkDirectory directory
    t.walk (← stepFrom directory part) rest

/-- The parts of a path that can be looked up. -/
def lookupParts (p : String) : Except FileError (List String) :=
  if p.toList.contains '\x00' then throw .nullCharacter
  else if p.isEmpty then throw .notFound
  else if longestPath < p.utf8ByteSize then throw .nameTooLong
  else return Path.split p

/-- The place that a path leads to, which need not exist. -/
def resolve (t : FileTree) (p : String) : Except FileError (List String) := do
  t.walk [] (← lookupParts p)

/-! ## Using files -/

def content? (t : FileTree) (p : String) : Option ByteArray :=
  match t.resolve p with
  | .ok parts => t.files.lookup parts
  | .error _ => none

def isFile (t : FileTree) (p : String) : Bool :=
  (t.content? p).isSome

def makeDirectoryAt (t : FileTree) (parts : List String) : Except FileError FileTree :=
  if t.hasDirectory parts then return t
  else if t.hasFile parts then throw .exists
  else return { t with directories := t.directories ++ [parts] }

def withoutEndSlashes (p : String) : String :=
  String.ofList (p.toList.reverse.dropWhile (· == '/')).reverse

def walkMaking (t : FileTree) (directory : List String) : List String → Except FileError FileTree
  | [] => return t
  | part :: rest => do
    let next ← stepFrom directory part
    if t.hasFile next && !rest.isEmpty then throw .notDirectory
    (← t.makeDirectoryAt next).walkMaking next rest

def makeDirectories (t : FileTree) (p : String) : Except FileError FileTree := do
  let named := withoutEndSlashes p
  if named.isEmpty && !p.isEmpty then return t
  t.walkMaking [] (← lookupParts named)

def makeDirectory (t : FileTree) (p : String) : Except FileError FileTree := do
  t.makeDirectoryAt (← t.resolve p)

/-- Creates a file in an existing directory, or replaces its content. A path that ends with a slash
is one of a directory. -/
def write (t : FileTree) (p : String) (content : ByteArray) : Except FileError FileTree := do
  let named := withoutEndSlashes p
  let parts ← if named.isEmpty then t.resolve p else t.resolve named
  if t.hasDirectory parts then throw .isDirectory
  t.checkDirectory parts.dropLast
  if named != p then throw (if t.hasFile parts then .notDirectory else .isDirectory)
  return { t with files := Entries.set parts content t.files }

def read (t : FileTree) (p : String) : Except FileError ByteArray := do
  let parts ← t.resolve p
  match t.files.lookup parts with
  | some content => return content
  | none => throw (if t.hasDirectory parts then .isDirectory else .notFound)

def below (t : FileTree) (p : String) : List (String × ByteArray) :=
  let top := Path.parts p
  (t.files.filter fun (parts, _) => top.isPrefixOf parts && top != parts).map
    fun (parts, content) => ("/".intercalate (parts.drop top.length), content)

def list (t : FileTree) (p : String) : List String :=
  let parts := Path.parts p
  let below := (t.files.map Prod.fst ++ t.directories).filter fun other =>
    parts.isPrefixOf other && parts.length < other.length
  Sorted.ofList (below.filterMap (·[parts.length]?))

def put (p : String) (content : ByteArray) (t : FileTree) : FileTree :=
  match do (← t.makeDirectories (Path.parent p)).write p content with
  | .ok t => t
  | .error _ => t

def ofFiles (files : List (String × ByteArray)) : FileTree :=
  files.foldl (fun t (p, content) => t.put p content) .empty

def writeLines (t : FileTree) (p : String) (lines : List String) : Except FileError FileTree :=
  t.write p (Text.writeLines lines)

end FileTree

/-- Work on files. What was done before an error stays done. -/
abbrev Filing (α : Type) := ExceptT FileError (StateM FileTree) α

def changeFiles (change : FileTree → Except FileError FileTree) : Filing Unit := do
  set (← liftExcept (change (← get)))

end GeneticRepair
