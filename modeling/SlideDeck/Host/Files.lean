import SlideDeck.Text.Quoted
import SlideDeck.Text.Utf8

/-!
The files that a run can reach: a tree of names with a working directory. Paths are followed name by
name from left to right, so that the first name that leads nowhere decides which error is reported.
-/

namespace SlideDeck

inductive FileProblem where
  | missing
  | notDirectory
  | isDirectory
  | nameTooLong
deriving DecidableEq, Repr

namespace FileProblem

def number : FileProblem → Nat
  | missing => 2
  | notDirectory => 20
  | isDirectory => 21
  | nameTooLong => 36

def words : FileProblem → Text
  | missing => "No such file or directory"
  | notDirectory => "Not a directory"
  | isDirectory => "Is a directory"
  | nameTooLong => "File name too long"

end FileProblem

structure FileError where
  problem : FileProblem
  path : Text
deriving DecidableEq, Repr

def FileError.message (e : FileError) : Text :=
  Text.concat ["[Errno ", Text.ofNat e.problem.number, "] ", e.problem.words, ": ",
    Text.quoted e.path]

/-- Why a path is refused: by the system, or because it holds a NUL and is no path at all. -/
inductive PathFault where
  | system (e : FileError)
  | nul
deriving DecidableEq, Repr

inductive FileNode where
  | file (content : List UInt8)
  | directory
  /-- A device that is always empty, whatever is written to it. -/
  | sink
deriving DecidableEq, Repr

abbrev Place := List Text

def Place.step (here : Place) (name : Text) : Place :=
  if name = [] ∨ name = "." then here
  else if name = ".." then here.dropLast
  else here ++ [name]

/-- Files by their places, and the working directory, which is always there. -/
structure Files where
  nodes : List (Place × FileNode) := []
  home : Place := []
deriving Repr

namespace Files

def nameLimit : Nat := 255

def pathLimit : Nat := 4095

def node? (fs : Files) (place : Place) : Option FileNode :=
  if place.isPrefixOf fs.home then some .directory
  else (fs.nodes.find? (·.1 = place)).map (·.2)

def split (home : Place) (path : Text) : Place × List Text :=
  match path.splitOn '/' with
  | [] :: names => if path = [] then (home, []) else ([], names)
  | names => (home, names)

def route (here : Place) : List Text → List Place
  | [] => []
  | name :: names => here.step name :: route (here.step name) names

/-- Follows names from a place. Every name but the last must lead to something that exists; the
last one may be free, which gives the place with none. -/
def follow (fs : Files) (here : Place) : List Text → Except FileProblem (Place × Option FileNode)
  | [] => .ok (here, fs.node? here)
  | name :: names =>
    match fs.node? here with
    | some .directory =>
      if nameLimit < (Text.Utf8.encode name).length then .error .nameTooLong
      else
        let next := Place.step here name
        if names = [] then .ok (next, fs.node? next)
        else if fs.node? next = none then .error .missing
        else follow fs next names
    | _ => .error .notDirectory

def locate (fs : Files) (path : Text) : Except FileProblem (Place × Option FileNode) :=
  if path = [] then .error .missing
  else if pathLimit < (Text.Utf8.encode path).length then .error .nameTooLong
  else follow fs (split fs.home path).1 (split fs.home path).2

def report {α : Type} (path : Text) (r : Except FileProblem α) : Except PathFault α :=
  if path.contains '\x00' then .error .nul
  else match r with
    | .ok a => .ok a
    | .error problem => .error (.system ⟨problem, path⟩)

def read (fs : Files) (path : Text) : Except PathFault (List UInt8) :=
  report path <| do
    match ← fs.locate path with
    | (_, some (.file content)) => .ok content
    | (_, some .sink) => .ok []
    | (_, some .directory) => .error .isDirectory
    | (_, none) => .error .missing

def isFile (fs : Files) (path : Text) : Bool :=
  match report path (fs.locate path) with
  | .ok (_, some (.file _)) => true
  | _ => false

/-- Puts content at a place, in place of what was there; the directories that lead there come to be
when they are not there yet. -/
def put (fs : Files) (place : Place) (node : FileNode) : Files :=
  let kept := fs.nodes.filter (·.1 ≠ place)
  let parents := ((List.range place.length).drop 1).map fun n => place.take n
  let made := parents.filter fun p => !kept.any (·.1 = p)
  { fs with nodes := kept ++ made.map (·, .directory) ++ [(place, node)] }

/-- The place at which a path can be written, with what is there now. A path that ends in a slash
names a directory, which cannot. -/
def writable (fs : Files) (path : Text) : Except FileProblem (Place × Option FileNode) := do
  let (start, names) := split fs.home path
  if path ≠ [] ∧ path.getLast? = some '/' ∧ (Text.Utf8.encode path).length ≤ pathLimit then
    let _ ← fs.follow start (((names.reverse.dropWhile (· = [])).drop 1).reverse ++ [['.']])
    .error .isDirectory
  else
    match ← fs.locate path with
    | (_, some .directory) => .error .isDirectory
    | found => .ok found

def write (fs : Files) (place : Place) (content : List UInt8) : Files :=
  if fs.node? place = some .sink then fs else fs.put place (.file content)

/-- Content with bytes written over it from an offset on. What lies between its end and the offset
comes to be zeros. -/
def overwrite (content : List UInt8) (offset : Nat) (bytes : List UInt8) : List UInt8 :=
  (content ++ List.replicate (offset - content.length) 0).take offset ++ bytes ++
    content.drop (offset + bytes.length)

/-- Writes bytes into the file at a place, if one is there. -/
def writeAt (fs : Files) (place : Place) (offset : Nat) (bytes : List UInt8) : Files :=
  match fs.node? place with
  | some (.file content) =>
    if bytes = [] then fs else fs.put place (.file (overwrite content offset bytes))
  | _ => fs

def create (fs : Files) (path : Text) : Except PathFault (Place × Files) :=
  report path <| (fs.writable path).map fun (place, _) => (place, fs.write place [])

def touch (fs : Files) (path : Text) : Except PathFault Files :=
  report path <| (fs.writable path).map fun
    | (place, none) => fs.put place (.file [])
    | _ => fs

def remove (fs : Files) (place : Place) : Files :=
  { fs with nodes := fs.nodes.filter fun n => !place.isPrefixOf n.1 }

def changed (before after : Files) : List (Place × List UInt8) :=
  after.nodes.filterMap fun
    | (_, .directory) | (_, .sink) => none
    | (place, .file content) =>
      if before.nodes.contains (place, .file content) then none else some (place, content)

end Files

/-- A path in a form in which two paths agree when they name the same place by their spelling
alone. -/
structure PlainPath where
  /-- Whether the path has exactly two slashes in front, which is a root of its own. -/
  doubled : Bool
  place : Place
deriving DecidableEq, Repr

namespace PlainPath

def ofText (home : Place) (path : Text) : PlainPath :=
  let (start, names) := Files.split home path
  ⟨(path.takeWhile (· == '/')).length == 2, names.foldl Place.step start⟩

def toText (p : PlainPath) : Text :=
  (if p.doubled then "//" else "/" : String).toList ++ Text.join "/" p.place

end PlainPath

end SlideDeck
