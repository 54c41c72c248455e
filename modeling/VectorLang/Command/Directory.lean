import VectorLang.Command.Plan

/-!
# Directories in memory

A directory holds files and further directories below it. Paths start there, or
at the root of the file system if they begin with a slash; a dot stays at its
place, two dots go up by one. Of what lies outside only that is known which every
system has: the directories above, and at the root `/dev`, `/tmp` and the null
device. What is written outside is not kept.
-/

namespace VectorLang

/-- Names to follow one after the other, each in the directory before. -/
abbrev Location := List String

/-- What a path can start from or climb to. -/
inductive Anchor where
  /-- The directory itself. -/
  | here
  /-- Some directory that the directory lies in. -/
  | above
  | root
  deriving DecidableEq, Repr

/-- A place in the file system, reached from an anchor. -/
structure Site where
  anchor : Anchor
  location : Location
  deriving DecidableEq, Repr

namespace Site

/-- One level up. Nothing lies above the root. -/
def up (site : Site) : Site :=
  match site.anchor, site.location with
  | .here, [] => ⟨.above, []⟩
  | anchor, location => ⟨anchor, location.dropLast⟩

/-- Go on from a directory by one name of a path. -/
def step (site : Site) (name : String) : Site :=
  if name = "." then site
  else if name = ".." then site.up
  else { site with location := site.location ++ [name] }

/-- Where following a path begins. -/
def start (path : String) : Site :=
  ⟨if path.startsWith "/" then .root else .here, []⟩

end Site

/-- What stands at a place. -/
inductive Entry where
  | folder
  | file (content : ByteArray)
  | nothing

/-- What every system has below its root. The null device reads as an empty file. -/
def Entry.belowRoot : Location → Entry
  | [] | ["dev"] | ["tmp"] => .folder
  | ["dev", "null"] => .file .empty
  | _ => .nothing

/-- Files with their content, and directories that may be empty. -/
structure Directory where
  files : List (Location × ByteArray)
  folders : List Location

namespace Directory

/-- Whether `location` is the directory itself or one below it. -/
def isFolder (directory : Directory) (location : Location) : Bool :=
  location.isEmpty || directory.folders.contains location ||
    (directory.folders ++ directory.files.map (·.1)).any fun inner =>
      location.isPrefixOf inner && location.length < inner.length

/-- What stands at a place. -/
def entry (directory : Directory) (site : Site) : Entry :=
  match site.anchor with
  | .here =>
      if directory.isFolder site.location then .folder
      else
        match directory.files.lookup site.location with
        | some content => .file content
        | none => .nothing
  | .above => if site.location.isEmpty then .folder else .nothing
  | .root => .belowRoot site.location

/-- Follow `names` from `site`. Every site that is left has to be a directory. -/
def walk (directory : Directory) (site : Site) : List String → Except FileFault Site
  | [] => .ok site
  | name :: rest =>
      match directory.entry site with
      | .folder => walk directory (site.step name) rest
      | .file _ => .error .notDirectory
      | .nothing => .error .notFound

/-- The names on a path. A slash at the end stands for a dot behind it. -/
def names (path : String) : List String :=
  let parts := (path.splitOn "/").filter (· ≠ "")
  if path.endsWith "/" then parts ++ ["."] else parts

/-- The content of a file. -/
def read (directory : Directory) (path : String) : Except FileFault ByteArray := do
  if path.isEmpty then throw .notFound
  let site ← directory.walk (.start path) (names path)
  match directory.entry site with
  | .folder => throw .isDirectory
  | .file content => return content
  | .nothing => throw .notFound

/-- Create or replace a file in an existing directory. -/
def write (directory : Directory) (path : String) (content : ByteArray) :
    Except FileFault Directory := do
  if path.isEmpty then throw .notFound
  let parts := (path.splitOn "/").filter (· ≠ "")
  let last := parts.getLastD "."
  let parent ← directory.walk (.start path) (parts.dropLast ++ ["."])
  if path.endsWith "/" || last = "." || last = ".." then throw .isDirectory
  let site := parent.step last
  match site.anchor, directory.entry site with
  | _, .folder => throw .isDirectory
  | .here, _ =>
      let others := directory.files.filter (·.1 ≠ site.location)
      return { directory with files := others ++ [(site.location, content)] }
  | .above, _ | .root, _ => return directory

/-- The files that are new in `later` or have another content there. -/
def changes (earlier later : Directory) : List (String × ByteArray) :=
  let changed := later.files.filter fun (location, content) =>
    (earlier.files.lookup location).map (·.data) != some content.data
  changed.map fun (location, content) => ("/".intercalate location, content)

end Directory

/-- Carry out a plan on a directory, with `stdin` as standard input. -/
def Plan.simulate (stdin : ByteArray) (directory : Directory) : Plan → Report × Directory
  | .done report => (report, directory)
  | .read .stdin next => (next (.ok stdin)).simulate stdin directory
  | .read (.file path) next => (next (directory.read path)).simulate stdin directory
  | .write path content next =>
      match directory.write path content.toUTF8 with
      | .ok written => (next none).simulate stdin written
      | .error fault => (next (some fault)).simulate stdin directory

end VectorLang
