import DeviceScript.Text.Basic

/-! Paths of files, written with slashes. -/

namespace DeviceScript

/-- Where a path starts: at the working directory, at the root, or at the root written with two
slashes. -/
inductive Path.Anchor where
  | working | root | doubleRoot
  deriving DecidableEq

/-- A path without empty names and without single points, neither of which leads anywhere. -/
structure Path where
  anchor : Path.Anchor
  names : List Text
  deriving DecidableEq

namespace Path

def Anchor.text : Anchor → Text
  | working => ""
  | root => "/"
  | doubleRoot => "//"

/-- The anchor of a written path, for which two slashes differ from one and from three. -/
def Anchor.ofText : Text → Anchor
  | .scalar '/' :: .scalar '/' :: .scalar '/' :: _ => root
  | .scalar '/' :: .scalar '/' :: _ => doubleRoot
  | .scalar '/' :: _ => root
  | _ => working

def ofText (text : Text) : Path where
  anchor := Anchor.ofText text
  names := (Text.splitAt '/' text).filter fun name => name ≠ [] && name ≠ "."

/-- A written path; the working directory itself is a point. -/
def text (path : Path) : Text :=
  if path.anchor = .working ∧ path.names = [] then "."
  else path.anchor.text ++ Text.join "/" path.names

instance : Coe String Path := ⟨fun path => ofText path⟩

def isAbsolute (path : Path) : Bool := path.anchor ≠ .working

/-- The directory of a path, which for an anchor is the anchor itself. -/
def parent (path : Path) : Path := { path with names := path.names.dropLast }

/-- A path seen from a directory: an absolute one stays as it is. -/
def join (directory path : Path) : Path :=
  if path.isAbsolute then path else { directory with names := directory.names ++ path.names }

end Path

/-- A place in a file system: the names that lead to it from the root. -/
abbrev FileLocation := List Text

namespace FileLocation

/-- The place that names lead to, where two points lead back. -/
def follow (start : FileLocation) (names : List Text) : FileLocation :=
  names.foldl
    (fun place (name : Text) => if name = ".." then place.dropLast else place ++ [name]) start

/-- The place of a path, as far as its names tell. -/
def ofPath (working : FileLocation) (path : Path) : FileLocation :=
  follow (if path.isAbsolute then [] else working) path.names

def toPath (place : FileLocation) : Path := ⟨.root, place⟩

/-- The place of names in reverse, and the directories above it, the nearest first. -/
def upward : List Text → List FileLocation
  | [] => [[]]
  | name :: above => (name :: above).reverse :: upward above

/-- A place and the directories above it, the nearest first. -/
def ancestry (place : FileLocation) : List FileLocation := upward place.reverse

end FileLocation

end DeviceScript
