import DrawStyle.Files.Fault
import DrawStyle.Files.Path

/-!
A tree of files and directories without links.

Every file and directory has one location: the names on the way to it from the root. A path is
followed part by part, and each part but the last must lead to a directory. A file is replaced
in three steps: a new file under an unused name beside it, the old file's mode, and a rename,
which alone changes what the path shows.

All files belong to the one who works on them. What their access modes grant the owner counts,
unless the owner is privileged: then nothing is denied.
-/

namespace DrawStyle

/-- The names on the way from the root of a tree to a file or directory. -/
abbrev Location := List Text

inductive Node where
  | file (bytes : ByteArray) (mode : Nat)
  | directory (mode : Nat)

/-- The bits of an access mode that are not in a mask. -/
def withoutBits (mode mask : Nat) : Nat := mode ^^^ (mode &&& mask)

theorem withoutBits_of_and_eq_zero {mode mask : Nat} (h : mode &&& mask = 0) :
    withoutBits mode mask = mode := by
  rw [withoutBits, h, Nat.xor_zero]

def rootMode : Nat := 0o755

/-- A kind of access, as the bits of an access mode that grant it to the owner. -/
abbrev Access := Nat

def Access.read : Access := 0o400

def Access.write : Access := 0o200

def Access.search : Access := 0o100

def Access.change : Access := 0o300

namespace Node

def mode : Node → Nat
  | file _ mode => mode
  | directory mode => mode

def withMode (mode : Nat) : Node → Node
  | file bytes _ => file bytes mode
  | directory _ => directory mode

/-- Whether the mode of a file or directory grants some access to its owner. -/
def grants (node : Node) (access : Access) : Bool := node.mode &&& access == access

end Node

/-- A tree of files, and the directory in it from which relative paths start. -/
structure FileTree where
  /-- The files and the directories below the root, each location once. -/
  nodes : List (Location × Node)
  home : Location
  /-- Whether access is given whatever the modes say. -/
  privileged : Bool := true
  /-- The bits that a new file does not get of the mode with which it is made. -/
  umask : Nat := 0o022

namespace FileTree

/-- The access mode of a new file. -/
def newFileMode (tree : FileTree) : Nat := withoutBits 0o644 tree.umask

/-- A new file can be read by all and written by its owner, if the mask lets it. -/
theorem newFileMode_of_and_eq_zero {tree : FileTree} (h : 0o644 &&& tree.umask = 0) :
    tree.newFileMode = 0o644 :=
  withoutBits_of_and_eq_zero h

def allows (tree : FileTree) (node : Node) (access : Access) : Bool :=
  tree.privileged || node.grants access

/-- What stands at a location; the root is a directory. -/
def node? (tree : FileTree) (place : Location) : Option Node :=
  if place = [] then some (.directory rootMode)
  else (tree.nodes.find? fun (l, _) => l == place).map Prod.snd

def set (tree : FileTree) (place : Location) (node : Node) : FileTree :=
  if tree.nodes.any fun (l, _) => l == place then
    { tree with nodes := tree.nodes.map fun (l, n) => if l = place then (l, node) else (l, n) }
  else { tree with nodes := tree.nodes ++ [(place, node)] }

/-- Takes what stands at a location out of a tree. -/
def erase (tree : FileTree) (place : Location) : FileTree :=
  { tree with nodes := tree.nodes.filter fun (l, _) => l != place }

def enter (tree : FileTree) (place : Location) (access : Access) : Except FileFault Unit :=
  match tree.node? place with
  | none => .error .notFound
  | some (.file _ _) => .error .notDirectory
  | some (.directory mode) =>
    if tree.allows (.directory mode) access then .ok () else .error .denied

/-- The access to a directory that a part of a path needs; an empty part goes nowhere. -/
def stepAccess (part : Text) : Access := if part = [] then 0 else .search

/-- The location to which a part of a path leads from a directory. -/
def step (here : Location) (part : Text) : Location :=
  if part = [] ∨ part = ['.'] then here
  else if part = ['.', '.'] then here.dropLast
  else here ++ [part]

def follow (tree : FileTree) (here : Location) : List Text → Except FileFault Location
  | [] => .ok here
  | part :: parts =>
    match tree.enter here (stepAccess part) with
    | .error fault => .error fault
    | .ok () => follow tree (step here part) parts

def start (tree : FileTree) (p : Path) : Location := if p.isAbsolute then [] else tree.home

/-- The location that a path names, whether or not something stands there. -/
def locate (tree : FileTree) (p : Path) : Except FileFault Location :=
  if p = [] then .error .notFound else tree.follow (tree.start p) p.parts

def lookup (tree : FileTree) (p : Path) : Except FileFault (Location × Node) :=
  match tree.locate p with
  | .error fault => .error fault
  | .ok l =>
    match tree.node? l with
    | none => .error .notFound
    | some node => .ok (l, node)

def read (tree : FileTree) (p : Path) : Except FileFault ByteArray :=
  match tree.lookup p with
  | .error fault => .error fault
  | .ok (_, node) =>
    if !tree.allows node .read then .error .denied
    else match node with
      | .directory _ => .error .isDirectory
      | .file bytes _ => .ok bytes

def mode (tree : FileTree) (p : Path) : Except FileFault Nat :=
  match tree.lookup p with
  | .error fault => .error fault
  | .ok (_, node) => .ok node.mode

def setMode (tree : FileTree) (place : Location) (mode : Nat) : FileTree :=
  match tree.node? place with
  | none => tree
  | some node => tree.set place (node.withMode mode)

/-- The directory in which a path names something, and in which files can be made. -/
def parent (tree : FileTree) (p : Path) : Except FileFault Location :=
  let parts := p.parent
  match tree.follow (if parts = [] then tree.home else tree.start p) parts with
  | .error fault => .error fault
  | .ok l =>
    match tree.enter l .change with
    | .error fault => .error fault
    | .ok () => .ok l

/-- A name that no path of a tree and no part of `p` has, since it is longer than all of them. -/
def unusedName (tree : FileTree) (p : Path) : Text :=
  let lengths := tree.nodes.flatMap fun (l, _) => l.map List.length
  ".tmp".toList ++ List.replicate (lengths.foldl max p.length) '_'

/-- The location that a file gets when it is renamed to a path. A path must name a new file or
an old one; a directory is never replaced. -/
def renameTarget (tree : FileTree) (p : Path) : Except FileFault Location :=
  if p = [] then .error .notFound
  else match p.target.getLast? with
    | none => .error .busy
    | some name =>
      match tree.follow (tree.start p) p.target.dropLast with
      | .error fault => .error fault
      | .ok dir =>
        match tree.enter dir .search with
        | .error fault => .error fault
        | .ok () =>
          if name = ['.'] ∨ name = ['.', '.'] then .error .busy
          else if p.endsInSlash then .error .notDirectory
          else match tree.node? (dir ++ [name]) with
            | some (.directory _) => .error .isDirectory
            | _ => .ok (dir ++ [name])

def rename (tree : FileTree) (source : Location) (p : Path) : Except FileFault FileTree :=
  match tree.renameTarget p with
  | .error fault => .error fault
  | .ok target =>
    match tree.node? source with
    | none => .error .notFound
    | some node => .ok ((tree.erase source).set target node)

/-- A tree with a new file at a location, which has the mode of what stands where `p` leads. -/
def stage (tree : FileTree) (temp : Location) (p : Path) (bytes : ByteArray) : FileTree :=
  let staged := tree.set temp (.file bytes tree.newFileMode)
  match staged.mode p with
  | .error _ => staged
  | .ok mode => staged.setMode temp mode

/-- Replaces the file to which a path leads, or makes it. The new file is staged under an
unused name in the same directory and renamed; where that is refused it is taken away. -/
def replace (tree : FileTree) (p : Path) (bytes : ByteArray) : FileTree × Except FileFault Unit :=
  match tree.parent p with
  | .error fault => (tree, .error fault)
  | .ok dir =>
    let temp := dir ++ [tree.unusedName p]
    let staged := tree.stage temp p bytes
    match staged.rename temp p with
    | .error fault => (staged.erase temp, .error fault)
    | .ok tree => (tree, .ok ())

end FileTree

end DrawStyle
