import Mathlib.Data.List.Induction
import Mathlib.Logic.Function.Basic
import QuizFeed.Program

/-!
# Programs side by side

Programs that share a world go on one effect at a time. A schedule says, step by step, which of them
goes on and in which state it finds the clock and the network, so it stands for any order of steps
and for any movement of the clock between them. Each program still does what it does by itself
(`Crew.follows_run`), and what one of them finds in memory is what another one put there last
(`Crew.found_of_run`, `exists_put_of_lookup`).
-/

namespace QuizFeed

/-- An effect with its answer. -/
structure Deed where
  effect : Effect
  answer : effect.Answer

namespace Deed

/-- What a deed puts into memory, if it does. -/
def put? : Deed → Option (String × Snapshot)
  | ⟨.remember key snapshot, _⟩ => some (key, snapshot)
  | _ => none

/-- What a deed downloads, with the reply, if it does. -/
def download? : Deed → Option (String × Fetch.Reply)
  | ⟨.fetch url, reply⟩ => some (url, reply)
  | _ => none

/-- Whether a deed only reports something. -/
def isRecord : Deed → Bool
  | ⟨.log _, _⟩ => true
  | _ => false

/-- Only remembering a snapshot puts it into memory. -/
theorem put?_eq_some_iff {deed : Deed} {key : String} {snapshot : Snapshot} :
    deed.put? = some (key, snapshot) ↔ deed = ⟨.remember key snapshot, ()⟩ := by
  constructor
  · intro found
    obtain ⟨effect, answer⟩ := deed
    cases effect with
    | remember => cases found; rfl
    | _ => cases found
  · rintro rfl
    rfl

end Deed

/-- An answer leaves in memory what was there, behind what the deed puts there. -/
theorem World.memory_answer {ε : Type} (outside : Outside ε) (world : World ε) (effect : Effect) :
    (world.answer outside effect).2.memory =
      (Deed.put? ⟨effect, (world.answer outside effect).1⟩).toList ++ world.memory := by
  cases effect with
  | now | fetch | log | retrieve | remember | inspect | readFile | writeTemporary
  | dropTemporary => rfl
  | makeDirectory | makeTemporary | moveTemporary =>
    simp only [World.answer, World.change]
    split <;> rfl

namespace Program

variable {α β : Type}

/-- The result of a program that is done. -/
def result? : Program α → Option α
  | done result => some result
  | perform _ _ => none

/-- Whether a program has done some deeds, one after the other, when another one is left of it. -/
inductive Follows : Program α → List Deed → Program α → Prop where
  | start {program : Program α} : Follows program [] program
  | next {effect : Effect} {rest : effect.Answer → Program α} {answer : effect.Answer}
      {deeds : List Deed} {last : Program α} (later : Follows (rest answer) deeds last) :
      Follows (perform effect rest) (⟨effect, answer⟩ :: deeds) last

/-- What a program has done is done from the first deed on. -/
theorem Follows.of_append {program : Program α} {deeds more : List Deed} {last : Program α}
    (follows : Follows program (deeds ++ more) last) : ∃ middle, Follows program deeds middle := by
  induction deeds generalizing program with
  | nil => exact ⟨program, .start⟩
  | cons deed deeds inductionHypothesis =>
    cases follows with
    | next later =>
      obtain ⟨middle, before⟩ := inductionHypothesis later
      exact ⟨middle, .next before⟩

/-- A program that is done does nothing more. -/
theorem Follows.of_done {result : α} {deeds : List Deed} {last : Program α}
    (follows : Follows (done result) deeds last) : deeds = [] ∧ last = done result := by
  cases follows
  exact ⟨rfl, rfl⟩

/-- A program that asks for an effect is still there, or has gone on with the answer. -/
theorem Follows.of_ask {effect : Effect} {rest : effect.Answer → Program α} {deeds : List Deed}
    {last : Program α} (follows : Follows (ask effect >>= rest) deeds last) :
    (deeds = [] ∧ last.result? = none) ∨
      ∃ answer later, deeds = ⟨effect, answer⟩ :: later ∧ Follows (rest answer) later last := by
  cases follows with
  | start => exact .inl ⟨rfl, rfl⟩
  | next later => exact .inr ⟨_, _, rfl, later⟩

end Program

/-- Programs that share a world, with what is left of each. -/
structure Crew (ι ε α : Type) where
  world : World ε
  rest : ι → Program α

/-- The deeds of one of the programs in a trace. -/
def deedsOf {ι : Type} [DecidableEq ι] (caller : ι) (trace : List (ι × Deed)) : List Deed :=
  (trace.filter fun step => step.1 = caller).map Prod.snd

/-- The deeds of a caller come from the earlier and the later part of a trace. -/
theorem deedsOf_append {ι : Type} [DecidableEq ι] (caller : ι) (earlier later : List (ι × Deed)) :
    deedsOf caller (earlier ++ later) = deedsOf caller earlier ++ deedsOf caller later := by
  simp [deedsOf]

/-- A deed is one of a caller if the trace says so. -/
theorem mem_deedsOf {ι : Type} [DecidableEq ι] {caller : ι} {deed : Deed}
    {trace : List (ι × Deed)} : deed ∈ deedsOf caller trace ↔ (caller, deed) ∈ trace := by
  simp [deedsOf]

namespace Crew

variable {ι ε α : Type} (outside : Outside ε)

/-- The answer to an effect, with the clock and the network in some state, and the world after. -/
def answer (crew : Crew ι ε α) (state : ε) (effect : Effect) : effect.Answer × World ε :=
  { crew.world with outside := state }.answer outside effect

/-- A memory has what a deed put into it before what it had. -/
theorem memory_answer (crew : Crew ι ε α) (state : ε) (effect : Effect) :
    (crew.answer outside state effect).2.memory =
      (Deed.put? ⟨effect, (crew.answer outside state effect).1⟩).toList ++ crew.world.memory :=
  World.memory_answer outside { crew.world with outside := state } effect

variable [DecidableEq ι]

/-- Runs programs by a schedule. The trace lists who did what; a program that is done is passed
over. -/
def run : List (ι × ε) → Crew ι ε α → List (ι × Deed) × Crew ι ε α
  | [], crew => ([], crew)
  | (caller, state) :: schedule, crew =>
    match crew.rest caller with
    | .done _ => run schedule crew
    | .perform effect next =>
      let answered := crew.answer outside state effect
      let later := run schedule
        ⟨answered.2, Function.update crew.rest caller (next answered.1)⟩
      ((caller, ⟨effect, answered.1⟩) :: later.1, later.2)

/-- Whatever the others do, a program does what it does by itself. -/
theorem follows_run (schedule : List (ι × ε)) (crew : Crew ι ε α) (caller : ι) :
    (crew.rest caller).Follows (deedsOf caller (run outside schedule crew).1)
      ((run outside schedule crew).2.rest caller) := by
  induction schedule generalizing crew with
  | nil => exact .start
  | cons step schedule inductionHypothesis =>
    obtain ⟨other, state⟩ := step
    rw [run]
    split
    case h_1 => exact inductionHypothesis crew
    case h_2 effect next asks =>
      dsimp only
      have later := inductionHypothesis ⟨(crew.answer outside state effect).2,
        Function.update crew.rest other (next (crew.answer outside state effect).1)⟩
      dsimp only at later
      by_cases same : other = caller
      · subst same
        rw [Function.update_self] at later
        rw [asks, deedsOf, List.filter_cons_of_pos (by simp), List.map_cons]
        exact .next later
      · rw [Function.update_of_ne (Ne.symm same)] at later
        rwa [deedsOf, List.filter_cons_of_neg (by simp [same])]

/-- What is in memory after a run is what was put there, the last first, and what was there
before. -/
theorem memory_run (schedule : List (ι × ε)) (crew : Crew ι ε α) :
    (run outside schedule crew).2.world.memory =
      ((run outside schedule crew).1.filterMap fun step => step.2.put?).reverse ++
        crew.world.memory := by
  induction schedule generalizing crew with
  | nil => rfl
  | cons step schedule inductionHypothesis =>
    obtain ⟨caller, state⟩ := step
    rw [run]
    split
    case h_1 => exact inductionHypothesis crew
    case h_2 effect next asks =>
      dsimp only
      rw [inductionHypothesis, memory_answer, List.filterMap_cons]
      cases Deed.put? ⟨effect, (crew.answer outside state effect).1⟩ <;> simp

/-- What a program finds in memory is what was put there before, the last first, or was there from
the start. -/
theorem found_of_run (schedule : List (ι × ε)) (crew : Crew ι ε α) {earlier later : List (ι × Deed)}
    {caller : ι} {key : String} {found : Option Snapshot}
    (split : (run outside schedule crew).1 =
      earlier ++ (caller, ⟨.retrieve key, found⟩) :: later) :
    found = ((earlier.filterMap fun step => step.2.put?).reverse ++
      crew.world.memory).lookup key := by
  induction schedule generalizing crew earlier with
  | nil =>
    rw [run] at split
    exact absurd split.symm (by simp)
  | cons step schedule inductionHypothesis =>
    obtain ⟨other, state⟩ := step
    rw [run] at split
    split at split
    case h_1 => exact inductionHypothesis crew split
    case h_2 effect next asks =>
      dsimp only at split
      cases earlier with
      | nil =>
        obtain ⟨head, -⟩ := List.cons.inj split
        cases head
        rfl
      | cons first earlier =>
        obtain ⟨rfl, rest⟩ := List.cons.inj split
        rw [inductionHypothesis _ rest, memory_answer, List.filterMap_cons]
        cases Deed.put? ⟨effect, (crew.answer outside state effect).1⟩ <;> simp

end Crew

/-- What is found among the things that were put, the last first, was put at some point, and nothing
was put under its key after that. -/
theorem exists_put_of_lookup {ι : Type} {trace : List (ι × Deed)} {key : String}
    {snapshot : Snapshot}
    (found : (trace.filterMap fun step => step.2.put?).reverse.lookup key = some snapshot) :
    ∃ older caller newer, trace = older ++ (caller, ⟨.remember key snapshot, ()⟩) :: newer ∧
      ∀ step ∈ newer, ∀ other, step.2.put? ≠ some (key, other) := by
  induction trace using List.reverseRecOn with
  | nil => cases found
  | append_singleton front last inductionHypothesis =>
    obtain ⟨caller, deed⟩ := last
    rw [List.filterMap_append, List.reverse_append, List.filterMap_cons, List.filterMap_nil]
      at found
    cases put : deed.put? with
    | none =>
      rw [put] at found
      obtain ⟨older, source, newer, rfl, silent⟩ := inductionHypothesis found
      refine ⟨older, source, newer ++ [(caller, deed)], by simp, ?_⟩
      rw [List.forall_mem_append]
      exact ⟨silent, by simp [put]⟩
    | some pair =>
      obtain ⟨other, present⟩ := pair
      rw [put, List.reverse_singleton, List.singleton_append, List.lookup_cons] at found
      by_cases same : key = other
      · subst same
        rw [beq_self_eq_true] at found
        obtain rfl := Option.some.inj found
        obtain rfl := Deed.put?_eq_some_iff.mp put
        exact ⟨front, caller, [], rfl, fun step member => absurd member List.not_mem_nil⟩
      · rw [beq_eq_false_iff_ne.mpr same] at found
        obtain ⟨older, source, newer, rfl, silent⟩ := inductionHypothesis found
        refine ⟨older, source, newer ++ [(caller, deed)], by simp, ?_⟩
        rw [List.forall_mem_append]
        refine ⟨silent, ?_⟩
        simp only [List.mem_singleton, forall_eq, put, ne_eq, Option.some.injEq, Prod.mk.injEq,
          not_and]
        exact fun _ equal => absurd equal.symm same

end QuizFeed
