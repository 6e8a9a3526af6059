/-!
# ProtocolTypes.Files.Path

Paths as they are written: names between slashes, where an empty name and a single dot stand for
the directory reached so far and two dots for the one above it.
-/

namespace ProtocolTypes

structure Path where
  text : String
deriving DecidableEq, Repr

namespace Path

/-- The pieces between slashes; `piece` is the current one so far, last character first. -/
def split (piece : List Char) : List Char → List String
  | [] => [String.ofList piece.reverse]
  | c :: rest =>
    if c = '/' then String.ofList piece.reverse :: split [] rest else split (c :: piece) rest

def segments (p : Path) : List String :=
  split [] p.text.toList

def isEmpty (p : Path) : Bool :=
  p.text.isEmpty

def isAbsolute (p : Path) : Bool :=
  p.text.toList.head? = some '/'

def endsInSlash (p : Path) : Bool :=
  p.text.toList.getLast? = some '/'

/-- No system call takes a path with a null character in it. -/
def hasNull (p : Path) : Bool :=
  p.text.toList.contains '\x00'

/-- The segment that a path ends in, slashes behind it aside, and those before it. -/
def last? (p : Path) : Option (List String × String) :=
  match p.segments.reverse.dropWhile String.isEmpty with
  | [] => none
  | last :: front => some (front.reverse, last)

/-! ## The parent of a path -/

def isBlank (segment : String) : Bool :=
  segment.isEmpty || segment = "."

/-- The segments without blank ones at the end. -/
def trimEnd (segments : List String) : List String :=
  (segments.reverse.dropWhile isBlank).reverse

/-- The segments without the last one that is not blank. -/
def dropName? (segments : List String) : Option (List String) :=
  match segments.reverse.dropWhile isBlank with
  | [] => none
  | _ :: front => some (trimEnd front.reverse)

def ofSegments (segments : List String) : Path :=
  ⟨"/".intercalate segments⟩

/-- The path without its last name. The root and the empty path have no parent; a dot at the very
beginning counts as a name. -/
def parent? (p : Path) : Option Path :=
  match p.segments with
  | "" :: rest => (dropName? rest).map fun front => ⟨"/" ++ (ofSegments front).text⟩
  | "." :: rest =>
    match dropName? rest with
    | some front => some (ofSegments ("." :: front))
    | none => some ⟨""⟩
  | segments => (dropName? segments).map ofSegments

end Path
end ProtocolTypes
