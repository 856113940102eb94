/-!
# The file system

Files are read from and written to a small model of a file system with three roots: the
working directory, where a relative path starts; the tree under `/`, where an absolute path
starts; and the directory above the working directory, of which nothing is known.

A path is resolved one part at a time, as the system resolves it.  An empty part (from a doubled
or trailing `/`) and `.` stay where they are, `..` goes to the parent, and a name goes to the
entry of that name; each of them needs a directory to stand in, so a file met on the way fails
with "not a directory", and a missing entry met on the way with "no such file".  So `a/../b`
needs `a` to exist, and `f/` fails when `f` is a file.

Under `/` only the directory `/dev` and two devices in it are known: the null device
`/dev/null`, which reads as empty and takes any write, and the full device `/dev/full`, which
opens for writing but refuses every write for want of space.  What is written above the working
directory is lost.

* `IoFailure` : why an operation failed, with `IoFailure.message` the system's wording.
* `Folder.resolve` : where a path leads.
* `Folder.read`, `Folder.write`, `Folder.put` : the operations.
* `Folder.topNames` : the sorted names at the top of the working directory.
-/

namespace TegraGpu

/-- Why a file operation failed. -/
inductive IoFailure where
  /-- No file or directory has the path. -/
  | notFound
  /-- The path names a directory where a file was wanted. -/
  | isDirectory
  /-- A part of the path names a file where a directory was wanted. -/
  | notDirectory
  /-- The device has no room for what is written. -/
  | noSpace
  deriving DecidableEq

/-- The system's wording of a failure, with its error number. -/
def IoFailure.message : IoFailure → String
  | .notFound => "No such file or directory (os error 2)"
  | .isDirectory => "Is a directory (os error 21)"
  | .notDirectory => "Not a directory (os error 20)"
  | .noSpace => "No space left on device (os error 28)"

/-- The devices under `/dev`. -/
inductive Device where
  /-- Reads as empty and takes any write. -/
  | null
  /-- Refuses every write for want of space. -/
  | full
  deriving DecidableEq

/-- The three places a path can start from. -/
inductive Root where
  /-- The working directory. -/
  | work
  /-- The tree under `/`. -/
  | system
  /-- The directory above the working directory. -/
  | above
  deriving DecidableEq

/-- An entry of the file system: a root and the names leading down from it. -/
structure Place where
  /-- Where the names start. -/
  root : Root
  /-- The names, outermost first. -/
  path : List String
  deriving DecidableEq

namespace Place

/-- The entry of a name inside a directory. -/
def child (p : Place) (name : String) : Place :=
  { p with path := p.path ++ [name] }

/-- The directory that holds a directory: above the working directory is reached from its top,
and `/` is its own parent. -/
def parent (p : Place) : Place :=
  match p.root, p.path with
  | .work, [] => ⟨.above, []⟩
  | .above, _ => ⟨.above, []⟩
  | r, names => ⟨r, names.dropLast⟩

/-- The device at a place, if one is there. -/
def device? (p : Place) : Option Device :=
  if p == ⟨.system, ["dev", "null"]⟩ then some .null
  else if p == ⟨.system, ["dev", "full"]⟩ then some .full
  else none

/-- The written form of a place that a root can be named from. -/
def text (p : Place) : String :=
  match p.root with
  | .system => "/" ++ "/".intercalate p.path
  | _ => "/".intercalate p.path

end Place

/-- Where a path leads. -/
inductive Spot where
  /-- A directory. -/
  | dir (place : Place)
  /-- A file, with its text. -/
  | file (place : Place) (text : String)
  /-- A device. -/
  | device (dv : Device)
  /-- Nothing: the last name is missing from its directory. -/
  | absent

/-- A file system of text files. -/
structure Folder where
  /-- The files, by place, with their texts. -/
  files : List (Place × String) := []
  /-- The directories that were created, by place. -/
  dirs : List Place := []

namespace Folder

/-- The text of the file at a place, if there is one. -/
def fileAt (d : Folder) (p : Place) : Option String :=
  (d.files.find? (fun (q, _) => q == p)).map Prod.snd

/-- Whether a place is a directory: the top of a root, `/dev`, a created directory, or one that
holds a file. -/
def isDir (d : Folder) (p : Place) : Bool :=
  p.path.isEmpty || p == ⟨.system, ["dev"]⟩ ||
    d.dirs.any (fun q => q.root == p.root && p.path.isPrefixOf q.path) ||
    d.files.any (fun (q, _) => q.root == p.root && p.path.isPrefixOf q.path &&
      p.path.length < q.path.length)

/-- The entry of a name in a directory. -/
def entry (d : Folder) (dir : Place) (name : String) : Spot :=
  let p := dir.child name
  if dir.root == .above then .absent
  else match d.fileAt p with
    | some text => .file p text
    | none =>
      match p.device? with
      | some dv => .device dv
      | none => if d.isDir p then .dir p else .absent

/-- One part of a path, read where the walk stands. -/
def step (d : Folder) : Spot → String → Except IoFailure Spot
  | .dir p, part =>
    if part = "" ∨ part = "." then .ok (.dir p)
    else if part = ".." then .ok (.dir p.parent)
    else .ok (d.entry p part)
  | .absent, _ => .error .notFound
  | _, _ => .error .notDirectory

/-- Where a path starts, and its parts after that. -/
def origin (path : String) : Place × List String :=
  match path.splitOn "/" with
  | "" :: rest => (⟨.system, []⟩, rest)
  | parts => (⟨.work, []⟩, parts)

/-- Where a path leads; the empty path leads nowhere. -/
def resolve (d : Folder) (path : String) : Except IoFailure Spot :=
  if path.isEmpty then .error .notFound
  else
    let (start, parts) := origin path
    parts.foldlM d.step (.dir start)

/-- Reads the text of a file. -/
def read (d : Folder) (path : String) : Except IoFailure String := do
  match ← d.resolve path with
  | .file _ text => pure text
  | .device _ => pure ""
  | .dir _ => throw .isDirectory
  | .absent => throw .notFound

/-- Whether anything is at a path. -/
def exists? (d : Folder) (path : String) : Bool :=
  match d.resolve path with
  | .ok .absent => false
  | .ok _ => true
  | .error _ => false

/-- Sets the text of the file at a place. -/
def store (d : Folder) (p : Place) (text : String) : Folder :=
  { d with files := (d.files.filter (fun (q, _) => q != p)) ++ [(p, text)] }

/-- Drops the trailing empty parts of a path, saying whether there were any. -/
def splitSlash (parts : List String) : List String × Bool :=
  let kept := (parts.reverse.dropWhile (· = "")).reverse
  (kept, kept.length < parts.length)

/-- Replaces or creates a file.  Its directory must exist; a missing file named with a trailing
`/` cannot be created, and neither can `.` or `..`, which are directories. -/
def write (d : Folder) (path : String) (text : String) : Except IoFailure Folder := do
  if path.isEmpty then throw .notFound
  let (start, parts) := origin path
  let (parts, slash) := splitSlash parts
  match parts.reverse with
  | [] => throw .isDirectory
  | last :: before =>
    match ← before.reverse.foldlM d.step (.dir start) with
    | .dir dir =>
      if last = "." ∨ last = ".." then throw .isDirectory
      match d.entry dir last with
      | .file p _ => if slash then throw .notDirectory else pure (d.store p text)
      | .dir _ => throw .isDirectory
      | .device dv =>
        if slash then throw .notDirectory
        else if dv = .full then throw .noSpace else pure d
      | .absent =>
        if slash then throw .isDirectory
        else if dir.root == .above then pure d
        else pure (d.store (dir.child last) text)
    | .absent => throw .notFound
    | _ => throw .notDirectory

/-- One part of a path, creating a missing directory on the way. -/
def makeStep : Folder × Spot → String → Folder × Spot
  | (d, .dir p), part =>
    if part = "" ∨ part = "." then (d, .dir p)
    else if part = ".." then (d, .dir p.parent)
    else match d.entry p part with
      | .absent =>
        if p.root == .above then (d, .absent)
        else ({ d with dirs := d.dirs ++ [p.child part] }, .dir (p.child part))
      | s => (d, s)
  | (d, _), _ => (d, .absent)

/-- Creates a file and the directories above it, as far as they can be made. -/
def put (d : Folder) (path : String) (text : String) : Folder :=
  let (start, parts) := origin path
  let (d, _) := parts.dropLast.foldl makeStep (d, .dir start)
  match d.write path text with
  | .ok d => d
  | .error _ => d

/-- Removes a file. -/
def remove (d : Folder) (path : String) : Folder :=
  match d.resolve path with
  | .ok (.file p _) => { d with files := d.files.filter (fun (q, _) => q != p) }
  | _ => d

/-- Inserts a name into a sorted list of distinct names. -/
def insertName (n : String) : List String → List String
  | [] => [n]
  | m :: ms => if n = m then m :: ms else if n < m then n :: m :: ms else m :: insertName n ms

/-- The names at the top of the working directory, sorted and each once. -/
def topNames (d : Folder) : List String :=
  let inWork (p : Place) : Option String := if p.root == .work then p.path.head? else none
  let heads := d.files.filterMap (fun (p, _) => inWork p) ++ d.dirs.filterMap inWork
  heads.foldl (fun acc n => insertName n acc) []

end Folder

end TegraGpu
