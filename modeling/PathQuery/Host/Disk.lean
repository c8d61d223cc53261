import PathQuery.Host.Basic
import PathQuery.Host.Path

/-! # Disks

A system that keeps what a program writes.  Files and directories are nodes under full names;
every node is in a directory, and there are no links.  A path is followed from a directory,
part by part, and each part but the last has to lead to a directory.

A request that cannot be met is answered with `false`.  What was done before it failed stays
done: of several directories, the first ones may have been made. -/
namespace PathQuery

namespace Path

/-- The parts of a path that lead somewhere. -/
def steps (p : String) : List (List Char) := (parts p).filter fun part => !isIdle part

/-- Whether the path ends with a name and not with a slash or points, so that it may be
a file's. -/
def endsInName (p : String) : Bool :=
  (parts p).getLast?.any fun part => !isIdle part && part != ['.', '.']

/-- Whether the last part of the path, slashes apart, is a single point. -/
def endsInPoint (p : String) : Bool :=
  ((parts p).filter fun part => part != []).getLast? == some ['.']

end Path

/-- A system that also keeps files, with effects in `m`. -/
structure Store (m : Type → Type) extends Host m where
  makeDirectories : String → m Bool
  write : String → ByteArray → m Bool

/-- The names of a node and of the directories it is in, from the root of all files. -/
abbrev FullName := List (List Char)

/-- Where a step leads from a directory. -/
def FullName.enter (n : FullName) (step : List Char) : FullName :=
  if step = ['.', '.'] then n.dropLast else n ++ [step]

/-- Where steps lead from a directory, one after the other. -/
def FullName.enterAll (n : FullName) : List (List Char) → List FullName
  | [] => []
  | step :: steps => n.enter step :: (n.enter step).enterAll steps

/-- What may be under a full name. -/
inductive Disk.Node where
  | directory
  | file (b : ByteArray)

instance (x : Option Disk.Node) : Decidable (x = some .directory) :=
  match x with
  | some .directory => isTrue rfl
  | some (.file _) | none => isFalse nofun

/-- The nodes of a disk.  `directory` is where paths start that do not start at the root;
`allows` tells under which names the program may make and change nodes. -/
structure Disk where
  directory : FullName
  node? : FullName → Option Disk.Node
  allows : FullName → Bool
  directory_there : node? directory = some .directory
  parent_there : ∀ n, (node? n).isSome → node? n.dropLast = some .directory

namespace Disk

/-- The disk with another node in a directory, in the place of a file or of nothing. -/
def put (d : Disk) (n : FullName) (x : Node) (hparent : d.node? n.dropLast = some .directory)
    (hnode : d.node? n ≠ some .directory) : Disk where
  directory := d.directory
  node? k := if k = n then some x else d.node? k
  allows := d.allows
  directory_there := by
    have hne : d.directory ≠ n := fun h => hnode (h ▸ d.directory_there)
    rw [if_neg hne, d.directory_there]
  parent_there k hk := by
    have hk : d.node? k.dropLast = some .directory := by
      by_cases h : k = n
      · rw [h, hparent]
      · exact d.parent_there k (by rwa [if_neg h] at hk)
    have hne : k.dropLast ≠ n := fun h => hnode (h ▸ hk)
    rw [if_neg hne, hk]

/-- A disk with nothing on it but the root of all files, where the program may do all it likes. -/
def blank : Disk where
  directory := []
  node? n := if n = [] then some .directory else none
  allows _ := true
  directory_there := rfl
  parent_there n hn := by
    by_cases h : n = []
    · rw [h]
      rfl
    · rw [if_neg h] at hn
      cases hn

/-- Whether there is a directory under a name. -/
def isDirectory (d : Disk) (n : FullName) : Bool := decide (d.node? n = some .directory)

/-- The directory that a path starts from. -/
def start (d : Disk) (p : String) : FullName := if Path.isAbsolute p then [] else d.directory

/-- The names that a path leads through, the one it leads to last. -/
def names (d : Disk) (p : String) : List FullName := (d.start p).enterAll (Path.steps p)

/-- The name that a path leads to. -/
def place (d : Disk) (p : String) : FullName := (Path.steps p).foldl .enter (d.start p)

/-- What is found under a path. -/
def find (d : Disk) (p : String) : Found :=
  if (d.names p).dropLast.all d.isDirectory then
    match d.node? (d.place p) with
    | some .directory => .unreadable
    | some (.file b) => if Path.endsInName p then .bytes b else .missing
    | none => .missing
  else .missing

/-- Makes a directory, unless it is there already. -/
def makeDirectory (d : Disk) (n : FullName) : Bool × Disk :=
  if hthere : d.node? n = some .directory then (true, d)
  else if h : d.node? n = none ∧ d.allows n ∧ d.node? n.dropLast = some .directory then
    (true, d.put n .directory h.2.2 hthere)
  else (false, d)

/-- Makes directories one after the other, up to the first that cannot be made. -/
def makeAll (d : Disk) : List FullName → Bool × Disk
  | [] => (true, d)
  | n :: ns =>
    match d.makeDirectory n with
    | (true, d) => d.makeAll ns
    | (false, d) => (false, d)

/-- The directories to be made for a path.  One with a point after it is not made, it has to be
there. -/
def made (d : Disk) (p : String) : List FullName :=
  (d.start p).enterAll
    (if Path.endsInPoint p then (Path.steps p).dropLast else Path.steps p)

/-- Makes the directory of a path and all that it leads through. -/
def makeDirectories (d : Disk) (p : String) : Bool × Disk :=
  match d.makeAll (d.made p) with
  -- with a point after it the directory itself was not made
  | (true, d') => (d'.isDirectory (d.place p), d')
  | (false, d') => (false, d')

/-- Writes a file, in the place of one that may be there. -/
def write (d : Disk) (p : String) (b : ByteArray) : Bool × Disk :=
  if h : ((d.names p).dropLast.all d.isDirectory ∧ Path.endsInName p) ∧ d.allows (d.place p) ∧
      d.node? (d.place p).dropLast = some .directory ∧ d.node? (d.place p) ≠ some .directory then
    (true, d.put (d.place p) (.file b) h.2.2.1 h.2.2.2)
  else (false, d)

/-- The system with such a disk; all but its files is another system's. -/
def store (host : Host Id) : Store (StateM Disk) where
  environment name := return host.environment name
  home := return host.home
  file p := return (← get).find p
  input := return host.input
  makeDirectories p d := d.makeDirectories p
  write p b d := d.write p b

end Disk

end PathQuery
