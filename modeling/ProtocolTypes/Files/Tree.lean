import ProtocolTypes.Files.Access

/-!
# ProtocolTypes.Files.Tree

A tree of files as a value, with the working directory that relative paths begin at.
-/

namespace ProtocolTypes

/-- Names from the root down. -/
abbrev Location := List String

inductive FileEntry where
  | file (content : List UInt8)
  | directory
deriving DecidableEq, Repr

/-- The first entry at a location counts. The root is always a directory. -/
structure FileTree where
  entries : List (Location × FileEntry)
  workingDirectory : Location
deriving DecidableEq, Repr

namespace FileTree

def entry? (t : FileTree) (l : Location) : Option FileEntry :=
  if l.isEmpty then some .directory else (t.entries.find? fun (k, _) => k = l).map Prod.snd

def isDirectoryAt (t : FileTree) (l : Location) : Bool :=
  t.entry? l = some .directory

def put (t : FileTree) (l : Location) (e : FileEntry) : FileTree :=
  { t with entries := (l, e) :: t.entries.filter fun (k, _) => k ≠ l }

/-! ## Walking -/

/-- Where the segments lead from a location; all but the last location are directories. -/
def walk (t : FileTree) (l : Location) : List String → Except FileError Location
  | [] => .ok l
  | s :: rest =>
    if !t.isDirectoryAt l then .error .notDirectory
    else if s.isEmpty || s = "." then walk t l rest
    else if s = ".." then walk t l.dropLast rest
    else
      match t.entry? (l ++ [s]) with
      | none => .error .missing
      | some _ => walk t (l ++ [s]) rest

def start (t : FileTree) (p : Path) : Location :=
  if p.isAbsolute then [] else t.workingDirectory

def checkPath (p : Path) : Except FileError Unit :=
  if p.hasNull then .error .nullInPath
  else if p.isEmpty then .error .missing
  else .ok ()

/-- The location of an existing entry. -/
def find (t : FileTree) (p : Path) : Except FileError Location := do
  checkPath p
  t.walk (t.start p) p.segments

/-- The directory that an entry is to stand in. -/
def findParent (t : FileTree) (p : Path) (front : List String) : Except FileError Location := do
  let l ← t.walk (t.start p) front
  if t.isDirectoryAt l then return l else .error .notDirectory

def isDots (segment : String) : Bool :=
  segment = "." || segment = ".."

/-! ## Operations -/

def isDirectory (t : FileTree) (p : Path) : Bool :=
  match t.find p with
  | .ok l => t.isDirectoryAt l
  | .error _ => false

def read (t : FileTree) (p : Path) : Except FileError (List UInt8) := do
  match t.entry? (← t.find p) with
  | some (.file content) => .ok content
  | some .directory => .error .isDirectory
  | none => .error .missing

/-- The tree with a file of the given content. -/
def write (t : FileTree) (p : Path) (content : List UInt8) : Except FileError FileTree := do
  checkPath p
  match p.last? with
  | none => .error .isDirectory
  | some (front, last) =>
    let l ← t.findParent p front
    if isDots last || p.endsInSlash || t.isDirectoryAt (l ++ [last]) then .error .isDirectory
    else return t.put (l ++ [last]) (.file content)

/-- The tree with a further directory. -/
def createDirectory (t : FileTree) (p : Path) : Except FileError FileTree := do
  checkPath p
  match p.last? with
  | none => .error .alreadyExists
  | some (front, last) =>
    let l ← t.findParent p front
    if isDots last || (t.entry? (l ++ [last])).isSome then .error .alreadyExists
    else return t.put (l ++ [last]) .directory

/-- One attempt to create a directory; one that is there already will do. -/
def ensureDirectory (t : FileTree) (p : Path) : Except FileError Unit × FileTree :=
  match t.createDirectory p with
  | .ok t => (.ok (), t)
  | .error e => (if t.isDirectory p then .ok () else .error e, t)

/-- Creates the parents of a directory where an attempt shows that they are missing. A parent is a
shorter path, so `fuel` need not exceed the length of the path. -/
def createDirectories (fuel : Nat) (t : FileTree) (p : Path) : Except FileError Unit × FileTree :=
  if p.isEmpty then (.ok (), t)
  else
    match fuel, t.createDirectory p, p.parent? with
    | fuel + 1, .error .missing, some parent =>
      match createDirectories fuel t parent with
      | (.ok _, t) => t.ensureDirectory p
      | (.error e, t) => (.error e, t)
    | _, _, _ => t.ensureDirectory p

def access : FileAccess (StateM FileTree) where
  read p := fun t => (t.read p, t)
  createDirectories p := fun t => t.createDirectories p.text.length p
  write p content := fun t =>
    match t.write p content with
    | .ok t => (.ok (), t)
    | .error e => (.error e, t)

end FileTree
end ProtocolTypes
