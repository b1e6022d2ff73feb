import QuizFeed.Files.Cause
import QuizFeed.Path

/-!
# Disks

A disk assigns a node, a file or a directory, to locations, which are lists of names from the
root. Paths are followed name by name from the root or from the working directory; every name on
the way has to lead to a directory. There are no links, so a location is the only way to a node.

The device that holds a directory may fail: when something is made there, when a file grows, when a
file is to be on the device for good, and when a file gets its name. What fails where is part of the
disk and stays as it is.
-/

namespace QuizFeed.Files

/-- The names that lead from the root to a node. -/
abbrev Location := List String

/-- What a location holds. -/
inductive Node where
  | file (content : ByteArray)
  | directory

/-- The kinds of nodes. -/
inductive Kind where
  | file
  | directory
  deriving DecidableEq, Repr

/-- The kind of a node. -/
def Node.kind : Node → Kind
  | .file _ => .file
  | .directory => .directory

/-- What the device of a directory fails at: making a file or a directory there, giving a file more
than some bytes, putting a file on the device for good, and giving a file its name. -/
structure Fault where
  making : Option Cause := none
  growing : Option (Nat × Cause) := none
  syncing : Option Cause := none
  moving : Option Cause := none
  deriving DecidableEq, Repr

/-- How many of some bytes a device with a fault puts into a file, and what it fails at with
them. -/
def Fault.filled (fault : Fault) (size : Nat) : Nat × Option Cause :=
  match fault.growing with
  | some (room, cause) => if room < size then (room, some cause) else (size, fault.syncing)
  | none => (size, fault.syncing)

/-- Fails with a cause, if there is one. -/
def failWith : Option Cause → Except Cause Unit
  | some cause => .error cause
  | none => .ok ()

@[simp] theorem failWith_none : failWith none = .ok () := rfl

/-- Nothing fails where there is no cause to fail. -/
theorem failWith_eq_ok {cause : Option Cause} : failWith cause = .ok () ↔ cause = none := by
  cases cause <;> simp [failWith]

/-- The nodes below the root, the directory from which relative paths start, and the faults of
directories. -/
structure Disk where
  nodes : List (Location × Node)
  working : Location
  faults : List (Location × Fault)

namespace Disk

/-- The node at a location; the root is always a directory. -/
def node? (disk : Disk) (location : Location) : Option Node :=
  if location = [] then some .directory else disk.nodes.lookup location

/-- Whether a location holds a directory. -/
def isDirectory (disk : Disk) (location : Location) : Bool :=
  match disk.node? location with
  | some .directory => true
  | _ => false

/-- What the device of a directory fails at: nothing, unless a fault is listed. -/
def fault (disk : Disk) (location : Location) : Fault :=
  (disk.faults.lookup location).getD {}

/-- The disk with a node at a location, instead of the node that was there. -/
def put (disk : Disk) (location : Location) (node : Node) : Disk :=
  { disk with nodes := place disk.nodes }
where
  /-- Replaces the node of the location, or adds it at the end. -/
  place : List (Location × Node) → List (Location × Node)
    | [] => [(location, node)]
    | (other, present) :: rest =>
      if other = location then (location, node) :: rest else (other, present) :: place rest

/-- The disk without the node at a location. -/
def erase (disk : Disk) (location : Location) : Disk :=
  { disk with nodes := disk.nodes.filter fun entry => entry.1 != location }

/-- The first entry of the nodes is found at its own location and hides nothing else. -/
theorem lookup_entry (location other : Location) (node : Node)
    (rest : List (Location × Node)) :
    ((location, node) :: rest).lookup other =
      if other = location then some node else rest.lookup other := by
  rw [List.lookup_cons]
  by_cases same : other = location
  · simp [same]
  · simp [same, beq_eq_false_iff_ne.mpr same]

/-- Placing a node is seen at its location only. -/
theorem lookup_place (location other : Location) (node : Node)
    (nodes : List (Location × Node)) :
    (put.place location node nodes).lookup other =
      if other = location then some node else nodes.lookup other := by
  induction nodes with
  | nil => simp [put.place, lookup_entry]
  | cons entry rest inductionHypothesis =>
    obtain ⟨present, content⟩ := entry
    simp only [put.place]
    split
    · simp_all [lookup_entry]
    · simp only [lookup_entry, inductionHypothesis]
      split <;> simp_all

/-- Leaving out the entries of a location is seen there only. -/
theorem lookup_erased (location other : Location) (nodes : List (Location × Node)) :
    (nodes.filter fun entry => entry.1 != location).lookup other =
      if other = location then none else nodes.lookup other := by
  induction nodes with
  | nil => simp
  | cons entry rest inductionHypothesis =>
    obtain ⟨present, content⟩ := entry
    by_cases here : present = location <;>
      simp only [List.filter_cons, bne_iff_ne, ne_eq, here, not_true_eq_false, not_false_eq_true,
        if_true, if_false, lookup_entry, inductionHypothesis] <;>
      grind

/-- A node that is put somewhere is there, and every other node stays. -/
theorem node?_put (disk : Disk) {location : Location} (below : location ≠ []) (node : Node)
    (other : Location) :
    (disk.put location node).node? other =
      if other = location then some node else disk.node? other := by
  by_cases root : other = []
  · subst root
    simp [node?, Ne.symm below]
  · simp [node?, root, put, lookup_place]

/-- Nothing is left where a node was erased, and every other node stays. -/
theorem node?_erase (disk : Disk) {location : Location} (below : location ≠ [])
    (other : Location) :
    (disk.erase location).node? other =
      if other = location then none else disk.node? other := by
  by_cases root : other = []
  · subst root
    simp [node?, Ne.symm below]
  · simp [node?, root, erase, lookup_erased]

/-- The greatest length of a name in bytes. -/
def nameLimit : Nat := 255

/-- The length in bytes that paths stay below. -/
def pathLimit : Nat := 4096

/-- The location that a path starts from. -/
def start (disk : Disk) (path : Path) : Location :=
  if path.isAbsolute then [] else disk.working

/-- Follows one piece of a path from a location. -/
def follow (disk : Disk) (location : Location) (piece : List Char) : Except Cause Location :=
  if !disk.isDirectory location then .error .notDirectory
  else if Path.isBlankPiece piece then .ok location
  else if piece = ['.', '.'] then .ok location.dropLast
  else
    let name := String.ofList piece
    if name.utf8ByteSize > nameLimit then .error .nameTooLong
    else if (disk.node? (location ++ [name])).isSome then .ok (location ++ [name])
    else .error .notFound

/-- What is wrong with a path before it is followed. -/
def checkPath (path : Path) : Except Cause Unit :=
  if path.text.toList.contains '\x00' then .error .nullInName
  else if path.text = "" then .error .notFound
  else if path.text.utf8ByteSize ≥ pathLimit then .error .nameTooLong
  else .ok ()

/-- The location that a path leads to. -/
def locate (disk : Disk) (path : Path) : Except Cause Location := do
  checkPath path
  (Path.pieces path.text.toList).foldlM disk.follow (disk.start path)

/-- The last piece of a path that is not empty. -/
inductive Last where
  | root
  | dots
  | name (text : String)
  deriving DecidableEq, Repr

/-- The end of a path: the location of the directory before its last piece, that piece, and
whether slashes follow it. -/
structure End where
  directory : Location
  last : Last
  slashed : Bool

/-- Follows a path up to its last piece. -/
def locateEnd (disk : Disk) (path : Path) : Except Cause End := do
  let reversed := (Path.pieces path.text.toList).reverse
  let slashed := reversed.head? == some []
  match reversed.dropWhile (· == []) with
  | [] => pure ⟨disk.start path, .root, slashed⟩
  | last :: above =>
    let directory ← above.reverse.foldlM disk.follow (disk.start path)
    if !disk.isDirectory directory then throw .notDirectory
    if last = ['.'] ∨ last = ['.', '.'] then pure ⟨directory, .dots, slashed⟩
    else pure ⟨directory, .name (String.ofList last), slashed⟩

/-- The kind of node that a path leads to. -/
def kindAt (disk : Disk) (path : Path) : Except Cause Kind := do
  match disk.node? (← disk.locate path) with
  | some node => pure node.kind
  | none => throw .notFound

/-- The content of the file that a path leads to. -/
def contentAt (disk : Disk) (path : Path) : Except Cause ByteArray := do
  match disk.node? (← disk.locate path) with
  | some (.file content) => pure content
  | some .directory => throw .isDirectory
  | none => throw .notFound

/-- Makes a directory. -/
def makeDirectory (disk : Disk) (path : Path) : Except Cause Disk := do
  checkPath path
  let place ← disk.locateEnd path
  match place.last with
  | .name name =>
    if name.utf8ByteSize > nameLimit then throw .nameTooLong
    let location := place.directory ++ [name]
    if (disk.node? location).isSome then throw .alreadyExists
    failWith (disk.fault place.directory).making
    pure (disk.put location .directory)
  | _ => throw .alreadyExists

/-- Makes an empty file, or empties the file that is there; the result names its location. -/
def createFile (disk : Disk) (path : Path) : Except Cause (Location × Disk) := do
  checkPath path
  let place ← disk.locateEnd path
  match place.last with
  | .name name =>
    if name.utf8ByteSize > nameLimit then throw .nameTooLong
    let location := place.directory ++ [name]
    if place.slashed ∨ disk.isDirectory location then throw .isDirectory
    if (disk.node? location).isNone then failWith (disk.fault place.directory).making
    pure (location, disk.put location (.file .empty))
  | _ => throw .isDirectory

/-- The name of a temporary file with a number. -/
def temporaryName (number : Nat) : String :=
  ".tmp" ++ toString number

/-- The least number from `number` on whose temporary name is free in a directory, among the next
`fuel` ones. -/
def freeNumber (disk : Disk) (directory : Location) (number : Nat) : Nat → Nat
  | 0 => number
  | fuel + 1 =>
    if (disk.node? (directory ++ [temporaryName number])).isSome then
      freeNumber disk directory (number + 1) fuel
    else number

/-- The path of the working directory. -/
def workingPath (disk : Disk) : Path :=
  ⟨"/" ++ "/".intercalate disk.working⟩

/-- Whether the path of a temporary file in a directory is short enough. It starts at the root, also
where the path of the directory does not, and the name takes ten bytes. -/
def fitsTemporary (disk : Disk) (directory : Path) : Bool :=
  (disk.workingPath.join (directory.child ".tmpXXXXXX")).text.utf8ByteSize < pathLimit

/-- Makes an empty file with a fresh name in a directory; an empty path is the working directory. -/
def makeTemporary (disk : Disk) (directory : Path) : Except Cause (Location × Disk) := do
  if !disk.fitsTemporary directory then throw .nameTooLong
  let location ← if directory.text = "" then pure disk.working else disk.locate directory
  if !disk.isDirectory location then throw .notDirectory
  failWith (disk.fault location).making
  let name := temporaryName (disk.freeNumber location 0 (disk.nodes.length + 1))
  pure (location ++ [name], disk.put (location ++ [name]) (.file .empty))

/-- Fills a temporary file and puts it on its device for good. Where this fails, a part of the
content may have been written. -/
def writeTemporary (disk : Disk) (temporary : Location) (content : ByteArray) :
    Except Cause Unit × Disk :=
  let (written, cause) := (disk.fault temporary.dropLast).filled content.size
  (failWith cause, disk.put temporary (.file (content.extract 0 written)))

/-- Moves a temporary file to a path, instead of a file that is there. -/
def moveTemporary (disk : Disk) (temporary : Location) (target : Path) : Except Cause Disk := do
  if target.text.toList.contains '\x00' then throw .invalidArgument
  checkPath target
  let place ← disk.locateEnd target
  match place.last with
  | .name name =>
    if name.utf8ByteSize > nameLimit then throw .nameTooLong
    if place.slashed then throw .notDirectory
    let location := place.directory ++ [name]
    if location.isPrefixOf temporary.dropLast then throw .notEmpty
    if disk.isDirectory location then throw .isDirectory
    failWith (disk.fault place.directory).moving
    match disk.node? temporary with
    | some node => pure ((disk.erase temporary).put location node)
    | none => throw .notFound
  | _ => throw .busy

end Disk
end QuizFeed.Files
