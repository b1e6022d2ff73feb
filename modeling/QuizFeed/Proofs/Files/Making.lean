import QuizFeed.Files.Write
import QuizFeed.Proofs.Files.Locations
import QuizFeed.Proofs.Program.Events

/-!
# Making directories

Making directories only adds directories, and only on the way of the path that is asked for
(`Program.ensureDirectory_grows`) and where devices take them (`Program.makes_makeDirectories`).
When it succeeds, the path leads to a directory (`Program.leads_of_ensureDirectory`), and where it
does already, nothing is done at all (`Program.run_ensureDirectory_of_leads`).
-/

namespace QuizFeed

namespace Files.Disk

variable {disk before middle after : Disk} {path parent : Path} {location : Location}
  {places : Location → Prop}

/-- A location is a directory if its node is one. -/
theorem isDirectory_iff : disk.isDirectory location = true ↔
    disk.node? location = some .directory := by
  unfold isDirectory
  cases disk.node? location with
  | none => simp
  | some node => cases node <;> simp

/-- Whether all that a disk has more than another one are directories at some places. -/
structure Grows (places : Location → Prop) (before after : Disk) : Prop where
  working : after.working = before.working
  faults : after.faults = before.faults
  nodes : ∀ location, after.node? location = before.node? location ∨
    places location ∧ before.node? location = none ∧ after.node? location = some .directory

/-- A disk has nothing more than itself. -/
theorem Grows.refl (places : Location → Prop) (disk : Disk) : Grows places disk disk :=
  ⟨rfl, rfl, fun _ => .inl rfl⟩

/-- What is added twice is added in all. -/
theorem Grows.trans (first : Grows places before middle) (second : Grows places middle after) :
    Grows places before after := by
  refine ⟨second.working.trans first.working, second.faults.trans first.faults,
    fun location => ?_⟩
  rcases second.nodes location with same | ⟨place, absent, present⟩
  · rw [same]
    exact first.nodes location
  · rcases first.nodes location with same | ⟨_, _, earlier⟩
    · exact .inr ⟨place, same ▸ absent, present⟩
    · rw [earlier] at absent
      cases absent

/-- Directories at some places are directories at more of them. -/
theorem Grows.mono {others : Location → Prop} (grows : Grows places before after)
    (more : ∀ location, places location → others location) : Grows others before after :=
  ⟨grows.working, grows.faults, fun location =>
    (grows.nodes location).imp_right fun ⟨place, rest⟩ => ⟨more location place, rest⟩⟩

/-- What was there is still there. -/
theorem Grows.node?_of_some (grows : Grows places before after) {node : Node}
    (found : before.node? location = some node) : after.node? location = some node := by
  rcases grows.nodes location with same | ⟨_, absent, _⟩
  · rw [same, found]
  · rw [found] at absent
    cases absent

/-- A disk that grows keeps its directories. -/
theorem Grows.keepsDirectories (grows : Grows places before after) :
    KeepsDirectories before after :=
  ⟨grows.working, fun _ isDirectory =>
    isDirectory_iff.mpr (grows.node?_of_some (isDirectory_iff.mp isDirectory))⟩

/-- A location that a path leads through: where some first names of it lead. -/
def Waypoint (disk : Disk) (path : Path) (location : Location) : Prop :=
  ∃ names, names <+: path.names ∧ location = names.foldl stepTo (disk.start path)

/-- A path leads through its destination. -/
theorem waypoint_destination (disk : Disk) (path : Path) :
    disk.Waypoint path (disk.destination path) :=
  ⟨path.names, List.prefix_refl _, rfl⟩

/-- A path leads through all that its parent leads through. -/
theorem Waypoint.of_parent? (above : path.parent? = some parent)
    (waypoint : disk.Waypoint parent location) : disk.Waypoint path location := by
  obtain ⟨names, start, rfl⟩ := waypoint
  obtain ⟨inside, absolute⟩ := Path.names_prefix_of_parent? above
  exact ⟨names, start.trans inside, by rw [start_eq_of_isAbsolute absolute]⟩

/-- What a path leads through depends on the working directory only. -/
theorem waypoint_of_working (same : after.working = before.working) :
    after.Waypoint path location ↔ before.Waypoint path location := by
  unfold Waypoint start
  rw [same]

/-- The fault of a directory is the same on disks with the same faults. -/
theorem fault_of_faults (same : after.faults = before.faults) (location : Location) :
    after.fault location = before.fault location := by
  unfold fault
  rw [same]

/-- Where a directory can be built on the way of a path: the device of the directory above takes
it. -/
def Buildable (disk : Disk) (path : Path) (location : Location) : Prop :=
  disk.Waypoint path location ∧ (disk.fault location.dropLast).making = none

/-- What can be built on the way of a parent can be built on the way of the path. -/
theorem Buildable.of_parent? (above : path.parent? = some parent)
    (buildable : disk.Buildable parent location) : disk.Buildable path location :=
  ⟨buildable.1.of_parent? above, buildable.2⟩

/-- A disk that has grown can be built on in the same places. -/
theorem Grows.buildable_iff (grows : before.Grows places after) :
    after.Buildable path location ↔ before.Buildable path location := by
  unfold Buildable
  rw [waypoint_of_working grows.working, fault_of_faults grows.faults]

/-- What it takes to make a directory: the names above lead to a directory, which has nothing under
the last name and the device of which takes something. -/
theorem exists_of_makeDirectory (made : before.makeDirectory path = .ok after) :
    ∃ location name slashed, before.locateEnd path = .ok ⟨location, .name name, slashed⟩ ∧
      checkPath path = .ok () ∧ name.utf8ByteSize ≤ nameLimit ∧
      before.node? (location ++ [name]) = none ∧ (before.fault location).making = none ∧
      after = before.put (location ++ [name]) .directory := by
  obtain ⟨_, checked, made⟩ := bind_eq_ok.mp made
  obtain ⟨⟨location, last, slashed⟩, found, made⟩ := bind_eq_ok.mp made
  cases last with
  | root | dots => cases made
  | name name =>
    dsimp only at made
    split at made
    case isTrue => cases made
    case isFalse short =>
      split at made
      case isTrue => cases made
      case isFalse absent =>
        obtain ⟨_, taken, made⟩ := bind_eq_ok.mp made
        cases made
        exact ⟨location, name, slashed, found, checked, by omega, by simpa using absent,
          failWith_eq_ok.mp taken, rfl⟩

/-- A node that is put into a directory is seen there only. -/
theorem node?_put_last (disk : Disk) (location : Location) (name : String) (node : Node)
    (other : Location) :
    (disk.put (location ++ [name]) node).node? other =
      if other = location ++ [name] then some node else disk.node? other :=
  node?_put disk (List.append_ne_nil_of_right_ne_nil location (List.cons_ne_nil name [])) node other

/-- A directory that was made is one that the path leads to, and all that is new. -/
theorem makeDirectory_eq_ok (made : before.makeDirectory path = .ok after) :
    before.Grows (before.Buildable path) after ∧ after.kindAt path = .ok .directory := by
  obtain ⟨location, name, slashed, found, checked, short, absent, taken, rfl⟩ :=
    exists_of_makeDirectory made
  have node := node?_put_last before location name .directory
  have grows : before.Grows (before.Buildable path)
      (before.put (location ++ [name]) .directory) := by
    refine ⟨rfl, rfl, fun other => ?_⟩
    rw [node]
    by_cases same : other = location ++ [name]
    · have waypoint := waypoint_destination before path
      rw [destination_of_locateEnd found] at waypoint
      rw [if_pos same, same]
      exact .inr ⟨⟨waypoint, by rwa [List.dropLast_concat]⟩, absent, rfl⟩
    · rw [if_neg same]
      exact .inl rfl
  have there : (before.put (location ++ [name]) .directory).isDirectory
      (location ++ [name]) = true := by
    rw [isDirectory_iff, node, if_pos rfl]
  refine ⟨grows, kindAt_eq_directory_iff.mpr ⟨_, ?_, there⟩⟩
  exact locate_of_locateEnd grows.keepsDirectories found checked short there

/-- Nothing is at the empty path. -/
theorem kindAt_of_empty (empty : path.text = "") : disk.kindAt path = .error .notFound := by
  unfold kindAt locate checkPath
  rw [empty]
  rfl

/-- A path at which a directory is seen leads to one. -/
theorem leads_of_kindAt (found : disk.kindAt path = .ok .directory) :
    ∃ location, disk.Leads path location := by
  obtain ⟨location, located, isDirectory⟩ := kindAt_eq_directory_iff.mp found
  refine ⟨location, isDirectory, .inr ⟨?_, located⟩⟩
  intro empty
  rw [kindAt_of_empty empty] at found
  cases found

end Files.Disk

namespace Program

open Files

variable {ε : Type} (outside : Outside ε) (path : Path) (world : World ε)

@[simp] theorem run_inspect :
    (inspect path).run outside world = (world.disk.kindAt path, world) := rfl

@[simp] theorem run_makeDirectory :
    (makeDirectory path).run outside world =
      world.change ((world.disk.makeDirectory path).map fun disk => ((), disk)) := rfl

/-- Whether a run only added directories on the way of a path, where devices take them, and the path
leads to a directory if the run succeeded. -/
def Makes (before : Disk) (result : Except Cause Unit × World ε) : Prop :=
  before.Grows (before.Buildable path) result.2.disk ∧
    (result.1 = .ok () → path.text = "" ∨ result.2.disk.kindAt path = .ok .directory)

variable {path}

/-- A run that fails without a change only added what it may. -/
theorem makes_of_unchanged {cause : Cause} :
    Makes path world.disk (.error cause, world) :=
  ⟨.refl _ _, fun success => nomatch success⟩

/-- Settling after a failure only adds what it may. -/
theorem makes_settleDirectory_error (cause : Cause) :
    Makes path world.disk ((settleDirectory path (.error cause)).run outside world) := by
  simp only [settleDirectory, run_bind, run_inspect]
  split
  case h_1 isDirectory => exact ⟨.refl _ _, fun _ => .inr isDirectory⟩
  case h_2 => exact makes_of_unchanged world

/-- Making one directory only adds what it may. -/
theorem makes_of_makeDirectory {disk : Disk} (made : world.disk.makeDirectory path = .ok disk) :
    Makes path world.disk
      ((settleDirectory path (.ok ())).run outside { world with disk := disk }) := by
  obtain ⟨grows, isDirectory⟩ := Disk.makeDirectory_eq_ok made
  exact ⟨grows, fun _ => .inr isDirectory⟩

/-- An attempt at making one directory. -/
theorem makes_attempt (path : Path) (world : World ε) :
    Makes path world.disk
      ((makeDirectory path >>= fun answer => settleDirectory path answer).run outside world) := by
  rw [run_bind, run_makeDirectory]
  cases made : world.disk.makeDirectory path with
  | error cause => exact makes_settleDirectory_error outside world cause
  | ok disk => exact makes_of_makeDirectory outside world made

/-- Making a directory and those above it adds directories on the way only, and leaves a directory
if it succeeds. -/
theorem makes_makeDirectories (path : Path) (world : World ε) :
    Makes path world.disk ((makeDirectories path).run outside world) := by
  generalize size : path.text.toList.length = length
  induction length using Nat.strongRecOn generalizing path world with
  | _ length inductionHypothesis =>
    rw [makeDirectories]
    split
    case isTrue empty => exact ⟨.refl _ _, fun _ => .inl empty⟩
    case isFalse =>
      rw [run_bind, run_makeDirectory]
      cases made : world.disk.makeDirectory path with
      | ok disk => exact makes_of_makeDirectory outside world made
      | error cause =>
        simp only [Except.map, World.change]
        split
        case h_2 => exact makes_settleDirectory_error outside world cause
        case h_1 =>
          split
          case h_1 => exact makes_of_unchanged world
          case h_2 parent above =>
            subst size
            obtain ⟨grows, _⟩ := inductionHypothesis _ (Path.length_parent? above) parent world rfl
            have growsBelow := grows.mono fun _ => Disk.Buildable.of_parent? above
            rw [run_bind]
            generalize (makeDirectories parent).run outside world = result at growsBelow ⊢
            obtain ⟨answer, after⟩ := result
            cases answer with
            | error cause => exact ⟨growsBelow, fun success => nomatch success⟩
            | ok =>
              obtain ⟨growsLast, leads⟩ := makes_attempt outside path after
              refine ⟨growsBelow.trans (growsLast.mono fun _ => ?_), leads⟩
              exact growsBelow.buildable_iff.mp

/-- Making sure of a directory adds directories on its way only. -/
theorem ensureDirectory_grows (path : Path) (world : World ε) :
    world.disk.Grows (world.disk.Waypoint path)
      ((ensureDirectory path).run outside world).2.disk := by
  unfold ensureDirectory
  rw [run_bind, run_inspect]
  split
  case h_1 => exact .refl _ _
  case h_2 => exact .refl _ _
  case h_3 =>
    rw [run_bind]
    have grows := (makes_makeDirectories outside path world).1.mono fun _ => And.left
    split <;> exact grows

/-- A path that is made sure of leads to a directory, the empty path to the working directory if
that is one. -/
theorem leads_of_ensureDirectory (path : Path) (world : World ε)
    (working : path.text = "" → world.disk.isDirectory world.disk.working = true)
    (ensured : ((ensureDirectory path).run outside world).1 = .ok ()) :
    ∃ location, ((ensureDirectory path).run outside world).2.disk.Leads path location := by
  have grows := ensureDirectory_grows outside path world
  revert ensured grows
  unfold ensureDirectory
  rw [run_bind, run_inspect]
  split
  case h_1 found => exact fun _ _ => Disk.leads_of_kindAt found
  case h_2 => exact fun ensured => nomatch ensured
  case h_3 =>
    rw [run_bind]
    have leads := (makes_makeDirectories outside path world).2
    generalize (makeDirectories path).run outside world = result at leads ⊢
    obtain ⟨answer, after⟩ := result
    cases answer with
    | error cause => exact fun ensured => nomatch ensured
    | ok =>
      intro _ grows
      rcases leads rfl with empty | found
      · have stays := grows.keepsDirectories.directories _ (working empty)
        rw [← grows.working] at stays
        exact ⟨_, stays, .inl ⟨empty, rfl⟩⟩
      · exact Disk.leads_of_kindAt found

/-- Looking for a node is an effect on directories. -/
theorem confined_inspect (path : Path) : (inspect path).Confined Effect.OnDirectories :=
  ⟨trivial, fun _ => trivial⟩

/-- Making a directory is an effect on directories. -/
theorem confined_makeDirectory (path : Path) : (makeDirectory path).Confined Effect.OnDirectories :=
  ⟨trivial, fun _ => trivial⟩

/-- Settling for a directory has effects on directories only. -/
theorem confined_settleDirectory (path : Path) (answer : Except Cause Unit) :
    (settleDirectory path answer).Confined Effect.OnDirectories := by
  unfold settleDirectory
  split
  case h_1 => exact confined_pure _
  case h_2 =>
    refine (confined_inspect path).bind fun answer => ?_
    split <;> exact confined_pure _

/-- Making directories has effects on directories only. -/
theorem confined_makeDirectories (path : Path) :
    (makeDirectories path).Confined Effect.OnDirectories := by
  generalize size : path.text.toList.length = length
  induction length using Nat.strongRecOn generalizing path with
  | _ length inductionHypothesis =>
    subst size
    rw [makeDirectories]
    split
    case isTrue => exact confined_pure _
    case isFalse =>
      refine (confined_makeDirectory path).bind fun answer => ?_
      split
      case h_2 => exact confined_settleDirectory _ _
      case h_1 =>
        split
        case h_1 => exact confined_pure _
        case h_2 parent above =>
          refine (inductionHypothesis _ (Path.length_parent? above) parent rfl).bind fun made => ?_
          split
          case h_1 =>
            exact (confined_makeDirectory path).bind fun answer => confined_settleDirectory _ _
          case h_2 => exact confined_pure _

/-- Ensuring that a directory is there has effects on directories only. -/
theorem confined_ensureDirectory (path : Path) :
    (ensureDirectory path).Confined Effect.OnDirectories := by
  unfold ensureDirectory
  refine (confined_inspect path).bind fun kind => ?_
  split
  case h_1 => exact confined_pure _
  case h_2 => exact confined_pure _
  case h_3 =>
    refine (confined_makeDirectories path).bind fun made => ?_
    split <;> exact confined_pure _

/-- Nothing is done where a path leads to a directory already. -/
theorem run_ensureDirectory_of_leads {path : Path} {location : Location} (world : World ε)
    (leads : world.disk.Leads path location) :
    (ensureDirectory path).run outside world = (.ok (), world) := by
  unfold ensureDirectory
  rw [run_bind, run_inspect]
  rcases leads.located with ⟨empty, _⟩ | ⟨_, located⟩
  · rw [Disk.kindAt_of_empty empty]
    dsimp only
    rw [makeDirectories, if_pos empty]
    rfl
  · rw [Disk.kindAt_eq_directory_iff.mpr ⟨location, located, leads.isDirectory⟩]
    rfl

end Program
end QuizFeed
