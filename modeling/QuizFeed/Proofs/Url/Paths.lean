import QuizFeed.Proofs.Url.Names
import QuizFeed.Proofs.Url.Percent
import QuizFeed.Url.Path

/-!
# Paths are read as they are written

What a path is read to are segments in which nothing is left to encode or to resolve
(`IsSettled`), so the path is read from its own text (`IsResolved.read_drop`), also with an
extension appended to it (`IsResolved.extended`). Whatever stands before it, a last segment that is
no segment of dots and no drive letter ends the path that is read (`exists_read_lastPart`).
-/

namespace QuizFeed.Url.Path

open Domain (joinWith)

variable {kind : Kind} {text segment last : List Char} {above front segs : List (List Char)}
  {character : Char}

/-- Whether a segment has only characters that may stand in one. -/
def IsAllowed (kind : Kind) (segment : List Char) : Prop :=
  ∀ character ∈ segment, kind.separates character = false ∧ Percent.inPath character = false

/-- Whether a segment is not one of dots. -/
def IsNamed (segment : List Char) : Prop :=
  isParent segment = false ∧ isCurrent segment = false

/-- A segment that reading leaves as it is. -/
structure IsSettled (kind : Kind) (segment : List Char) : Prop where
  allowed : IsAllowed kind segment
  named : IsNamed segment

/-- A slash separates segments in every kind of url. -/
theorem separates_slash (kind : Kind) : kind.separates '/' = true :=
  rfl

/-- Even the empty path has a segment. -/
theorem split_ne_nil (kind : Kind) (text : List Char) : split kind text ≠ [] := by
  cases text with
  | nil => simp [split]
  | cons character rest =>
    simp only [split]
    split <;> simp

/-- A segment has no separator in it. -/
theorem not_separates_of_mem_split (listed : segment ∈ split kind text)
    (inside : character ∈ segment) : kind.separates character = false := by
  induction text generalizing segment with
  | nil => simp_all [split]
  | cons first rest inductionHypothesis =>
    obtain ⟨next, others, whole⟩ := List.exists_cons_of_ne_nil (split_ne_nil kind rest)
    rw [whole] at inductionHypothesis
    simp only [split, whole, List.headD_cons, List.tail_cons] at listed
    split at listed
    case isTrue =>
      rcases List.mem_cons.mp listed with rfl | later
      · cases inside
      · exact inductionHypothesis later inside
    case isFalse apart =>
      rcases List.mem_cons.mp listed with rfl | later
      · rcases List.mem_cons.mp inside with rfl | inside
        · exact Bool.not_eq_true _ ▸ apart
        · exact inductionHypothesis List.mem_cons_self inside
      · exact inductionHypothesis (.tail _ later) inside

/-- A text without separators is one segment. -/
theorem split_of_free (free : ∀ character ∈ segment, kind.separates character = false) :
    split kind segment = [segment] := by
  induction segment with
  | nil => rfl
  | cons first rest inductionHypothesis =>
    obtain ⟨apart, others⟩ := List.forall_mem_cons.mp free
    simp [split, apart, inductionHypothesis others]

/-- A separator divides the segments before it from those after it. -/
theorem split_append (separates : kind.separates character = true) (before after : List Char) :
    split kind (before ++ character :: after) = split kind before ++ split kind after := by
  induction before with
  | nil => simp [split, separates]
  | cons first rest inductionHypothesis =>
    obtain ⟨next, others, whole⟩ := List.exists_cons_of_ne_nil (split_ne_nil kind rest)
    simp only [List.cons_append, split, inductionHypothesis, whole, List.headD_cons,
      List.tail_cons]
    split <;> rfl

/-- Segments without separators are split again where they were joined. -/
theorem split_joinWith (notNil : segs ≠ [])
    (free : ∀ segment ∈ segs, ∀ character ∈ segment, kind.separates character = false) :
    split kind (joinWith '/' segs) = segs := by
  fun_induction joinWith '/' segs with
  | case1 => exact absurd rfl notNil
  | case2 segment => exact split_of_free (free segment List.mem_cons_self)
  | case3 segment rest restNotNil inductionHypothesis =>
    obtain ⟨first, others⟩ := List.forall_mem_cons.mp free
    rw [split_append (separates_slash kind), split_of_free first,
      inductionHypothesis restNotNil others]
    rfl

/-- A path is its segments put together, behind a slash. -/
theorem write_eq_joinWith (notNil : segs ≠ []) : write segs = '/' :: joinWith '/' segs := by
  fun_induction joinWith '/' segs with
  | case1 => exact absurd rfl notNil
  | case2 segment => simp [write]
  | case3 segment rest restNotNil inductionHypothesis =>
    have := inductionHypothesis restNotNil
    unfold write at this ⊢
    rw [List.flatMap_cons, this, List.cons_append]

/-- What the segments of a path are read to is no segment of dots at its end. -/
theorem resolve_concat (named : IsNamed last)
    (noDrive : ¬ (kind = .file ∧ isDrive last = true)) :
    resolve kind above (front ++ [last]) = last :: front.foldl (step kind) above := by
  induction front generalizing above with
  | nil =>
    have kept : ¬ (kind = .file ∧ above = [] ∧ isDrive last = true) :=
      fun all => noDrive ⟨all.1, all.2.2⟩
    simp [resolve, step, named.1, named.2, kept]
  | cons segment rest inductionHypothesis =>
    obtain ⟨next, others, whole⟩ : ∃ next others, rest ++ [last] = next :: others :=
      List.exists_cons_of_ne_nil (by simp)
    rw [List.cons_append, whole, resolve, ← whole, inductionHypothesis, List.foldl_cons]
    simp

/-- Segments that are not of dots are put on top of those above. -/
theorem foldl_step (notFile : kind ≠ .file) (named : ∀ segment ∈ segs, IsNamed segment) :
    segs.foldl (step kind) above = segs.reverse ++ above := by
  induction segs generalizing above with
  | nil => rfl
  | cons segment rest inductionHypothesis =>
    obtain ⟨first, others⟩ := List.forall_mem_cons.mp named
    have kept : step kind above segment = segment :: above := by
      simp [step, first.1, first.2, notFile]
    rw [List.foldl_cons, kept, inductionHypothesis others]
    simp

/-- Settled segments are the segments of what they are joined to. -/
theorem segments_joinWith (notNil : segs ≠ [])
    (settled : ∀ segment ∈ segs, IsAllowed kind segment) :
    segments kind (joinWith '/' segs) = segs := by
  rw [segments, split_joinWith notNil fun segment listed character inside =>
    (settled segment listed character inside).1]
  have kept (segment) (listed : segment ∈ segs) : Percent.encode Percent.inPath segment = segment :=
    Percent.encode_eq_self fun character inside => (settled segment listed character inside).2
  rw [List.map_congr_left kept, List.map_id'']
  exact fun _ => rfl

/-- Settled segments are read as they are written. -/
theorem read_joinWith (notFile : kind ≠ .file) (notNil : segs ≠ [])
    (settled : ∀ segment ∈ segs, IsSettled kind segment) :
    read kind [] (joinWith '/' segs) = write segs := by
  obtain ⟨front, last, rfl⟩ := (List.eq_nil_or_concat' segs).resolve_left notNil
  have named (segment) (listed : segment ∈ front ++ [last]) := (settled segment listed).named
  rw [read, if_neg notFile, segments_joinWith notNil fun segment listed =>
      (settled segment listed).allowed,
    resolve_concat (named last (by simp)) fun file => notFile file.1,
    foldl_step notFile fun segment listed => named segment (by simp [listed])]
  simp

/-- Whether a segment of a path that is read comes from a segment of its text. -/
def ComesFrom (kind : Kind) (resolved segment : List Char) : Prop :=
  IsNamed segment ∧ (resolved = segment ∨
    (kind = .file ∧ isDrive segment = true ∧ resolved = segment.take 1 ++ [':']))

/-- What is above a segment is among what is above. -/
theorem mem_of_mem_parent (found : segment ∈ parent above) : segment ∈ above := by
  cases above with
  | nil => exact found
  | cons first others =>
    simp only [parent] at found
    split at found
    · exact found
    · exact .tail _ found

/-- A step keeps what is above, and adds what comes from its segment. -/
theorem mem_step {resolved : List Char} (found : resolved ∈ step kind above segment) :
    resolved ∈ above ∨ ComesFrom kind resolved segment := by
  unfold step at found
  split at found
  case isTrue => exact .inl (mem_of_mem_parent found)
  case isFalse notParent =>
    split at found
    case isTrue => exact .inl found
    case isFalse notCurrent =>
      have named : IsNamed segment := ⟨by simpa using notParent, by simpa using notCurrent⟩
      split at found
      case isTrue file =>
        exact .inr ⟨named, .inr ⟨file.1, file.2.2, List.mem_singleton.mp found⟩⟩
      case isFalse =>
        rcases List.mem_cons.mp found with rfl | earlier
        · exact .inr ⟨named, .inl rfl⟩
        · exact .inl earlier

/-- The segments that are read are those above, the empty one, and segments of the text. -/
theorem mem_resolve {resolved : List Char} (found : resolved ∈ resolve kind above segs) :
    resolved ∈ above ∨ resolved = [] ∨ ∃ segment ∈ segs, ComesFrom kind resolved segment := by
  fun_induction resolve kind above segs with
  | case1 => exact .inl found
  | case2 above last dots =>
    rcases List.mem_cons.mp found with rfl | found
    · exact .inr (.inl rfl)
    · rcases mem_step found with earlier | comes
      · exact .inl earlier
      · exact .inr (.inr ⟨last, List.mem_cons_self, comes⟩)
  | case3 above last notDots =>
    rcases mem_step found with earlier | comes
    · exact .inl earlier
    · exact .inr (.inr ⟨last, List.mem_cons_self, comes⟩)
  | case4 above segment rest _ inductionHypothesis =>
    rcases inductionHypothesis found with earlier | empty | ⟨later, listed, comes⟩
    · rcases mem_step earlier with earlier | comes
      · exact .inl earlier
      · exact .inr (.inr ⟨segment, List.mem_cons_self, comes⟩)
    · exact .inr (.inl empty)
    · exact .inr (.inr ⟨later, .tail _ listed, comes⟩)

/-- A path always resolves to some segments. -/
theorem resolve_ne_nil (notNil : segs ≠ []) : resolve kind above segs ≠ [] := by
  fun_induction resolve kind above segs with
  | case1 => exact absurd rfl notNil
  | case2 above last dots => simp
  | case3 above last notDots =>
    simp only [Bool.or_eq_true, not_or, Bool.not_eq_true] at notDots
    unfold step
    rw [notDots.1, notDots.2, if_neg Bool.false_ne_true, if_neg Bool.false_ne_true]
    split <;> simp
  | case4 above segment rest restNotNil inductionHypothesis =>
    exact inductionHypothesis restNotNil

/-- The segments of a text have characters that may stand in one only. -/
theorem isAllowed_of_mem_segments (listed : segment ∈ segments kind text) :
    IsAllowed kind segment := by
  obtain ⟨plain, isPart, rfl⟩ := List.mem_map.mp listed
  intro character inside
  rcases Percent.mem_encode inside with code | ⟨inside, kept⟩
  · refine ⟨?_, code.not_inPath⟩
    have apart : character ∉ ['/', '\\'] := code.notMem (by decide)
    simp only [List.mem_cons, List.not_mem_nil, or_false, not_or] at apart
    simp [Kind.separates, apart.1, apart.2]
  · exact ⟨not_separates_of_mem_split isPart inside, kept⟩

/-- What comes from an allowed segment is allowed. -/
theorem ComesFrom.isAllowed {resolved : List Char} (comes : ComesFrom kind resolved segment)
    (allowed : IsAllowed kind segment) : IsAllowed kind resolved := by
  obtain ⟨_, rfl | ⟨_, _, rfl⟩⟩ := comes
  · exact allowed
  · intro character inside
    rcases List.mem_append.mp inside with letter | colon
    · exact allowed character (List.mem_of_mem_take letter)
    · obtain rfl := List.mem_singleton.mp colon
      exact ⟨by cases kind <;> rfl, rfl⟩

/-- The segments of a path that is read have only characters that may stand in one. -/
theorem isAllowed_of_mem_resolve
    (listed : segment ∈ resolve kind [] (segments kind text)) : IsAllowed kind segment := by
  rcases mem_resolve listed with none | rfl | ⟨plain, listed, comes⟩
  · cases none
  · intro character inside
    cases inside
  · exact comes.isAllowed (isAllowed_of_mem_segments listed)

/-- Whether a path is made of settled segments. -/
def IsResolved (kind : Kind) (path : List Char) : Prop :=
  ∃ segs, path = write segs ∧ segs ≠ [] ∧ ∀ segment ∈ segs, IsSettled kind segment

/-- A path that is read is made of settled segments. -/
theorem isResolved_read (notFile : kind ≠ .file) (text : List Char) :
    IsResolved kind (read kind [] text) := by
  have notNil : segments kind text ≠ [] := by simpa [segments] using split_ne_nil kind text
  refine ⟨_, if_neg notFile, by simpa using resolve_ne_nil notNil, fun segment listed => ?_⟩
  rw [List.mem_reverse] at listed
  refine ⟨isAllowed_of_mem_resolve listed, ?_⟩
  rcases mem_resolve listed with none | rfl | ⟨plain, _, named, rfl | file⟩
  · cases none
  · exact ⟨rfl, rfl⟩
  · exact named
  · exact absurd file.1 notFile

/-- A path of settled segments has no character that is encoded. -/
theorem IsResolved.of_mem {path : List Char} (resolved : IsResolved kind path)
    (inside : character ∈ path) : character = '/' ∨ Percent.inPath character = false := by
  obtain ⟨segs, rfl, _, settled⟩ := resolved
  obtain ⟨segment, listed, inside⟩ := List.mem_flatMap.mp inside
  exact (List.mem_cons.mp inside).imp_right fun inside =>
    ((settled segment listed).allowed character inside).2

/-- A resolved path starts with a slash. -/
theorem IsResolved.exists_cons {path : List Char} (resolved : IsResolved kind path) :
    ∃ rest, path = '/' :: rest := by
  obtain ⟨segs, rfl, notNil, _⟩ := resolved
  exact ⟨_, write_eq_joinWith notNil⟩

/-- A path is read from its own text, behind its slash. -/
theorem IsResolved.read_drop {path : List Char} (resolved : IsResolved kind path)
    (notFile : kind ≠ .file) : read kind [] (path.drop 1) = path := by
  obtain ⟨segs, rfl, notNil, settled⟩ := resolved
  rw [write_eq_joinWith notNil, List.drop_one, List.tail_cons,
    read_joinWith notFile notNil settled, write_eq_joinWith notNil]

/-- A path starts with a slash. -/
theorem head?_read (kind : Kind) (text : List Char) : (read kind [] text).head? = some '/' := by
  by_cases file : kind = .file
  · rw [read, if_pos file]
    rfl
  · obtain ⟨segs, whole, notNil, _⟩ := isResolved_read file text
    rw [whole, write_eq_joinWith notNil]
    rfl

/-- A path has no character that is encoded. -/
theorem mem_read (found : character ∈ read kind [] text) :
    character = '/' ∨ (kind.separates character = false ∧ Percent.inPath character = false) := by
  have mem_write (found : character ∈ write (resolve kind [] (segments kind text)).reverse) :
      character = '/' ∨ (kind.separates character = false ∧ Percent.inPath character = false) := by
    obtain ⟨segment, listed, inside⟩ := List.mem_flatMap.mp found
    rcases List.mem_cons.mp inside with slash | inside
    · exact .inl slash
    · exact .inr (isAllowed_of_mem_resolve (List.mem_reverse.mp listed) character inside)
  unfold read at found
  dsimp only at found
  split at found
  · rcases List.mem_cons.mp found with slash | later
    · exact .inl slash
    · exact mem_write (List.dropWhile_subset _ later)
  · exact mem_write found

/-- What stands behind the last separator of a text. -/
def lastPart (kind : Kind) (text : List Char) : List Char :=
  (text.reverse.takeWhile (!kind.separates ·)).reverse

/-- A text without separators makes the last part longer. -/
theorem lastPart_append (free : ∀ character ∈ segment, kind.separates character = false)
    (text : List Char) : lastPart kind (text ++ segment) = lastPart kind text ++ segment := by
  have all : ∀ character ∈ segment.reverse, (!kind.separates character) = true := by
    simpa using free
  unfold lastPart
  rw [List.reverse_append, List.takeWhile_append_of_pos all, List.reverse_append,
    List.reverse_reverse]

/-- What stands before a separator does not count for the last part. -/
theorem lastPart_cons (separates : kind.separates character = true) (text : List Char) :
    lastPart kind (character :: text) = lastPart kind text := by
  unfold lastPart
  rw [List.reverse_cons, List.takeWhile_append]
  split
  case isTrue whole =>
    rw [(List.takeWhile_prefix _).eq_of_length whole]
    simp [separates]
  case isFalse => rfl

/-- A text ends in its last part. -/
theorem append_lastPart (kind : Kind) (text : List Char) :
    text = (text.reverse.dropWhile (!kind.separates ·)).reverse ++ lastPart kind text := by
  rw [lastPart, ← List.reverse_append, List.takeWhile_append_dropWhile, List.reverse_reverse]

/-- The last segment of a text is its last part. -/
theorem exists_split (kind : Kind) (text : List Char) :
    ∃ front, split kind text = front ++ [lastPart kind text] := by
  have free : ∀ character ∈ lastPart kind text, kind.separates character = false := by
    intro character inside
    simpa using List.mem_takeWhile_imp (List.mem_reverse.mp inside)
  have whole := append_lastPart kind text
  cases behind : text.reverse.dropWhile (!kind.separates ·) with
  | nil =>
    refine ⟨[], ?_⟩
    rw [behind, List.reverse_nil, List.nil_append] at whole
    rw [List.nil_append, ← split_of_free free, ← whole]
  | cons separator before =>
    have separates : kind.separates separator = true := by
      have := List.head?_dropWhile_not (!kind.separates ·) text.reverse
      simpa [behind] using this
    refine ⟨split kind before.reverse, ?_⟩
    rw [behind, List.reverse_cons, List.append_assoc, List.singleton_append] at whole
    rw [← split_of_free free, ← split_append separates, ← whole]

/-- Dropping slashes at the start leaves the last segment. -/
theorem dropWhile_slash {segment : List Char} (notNil : segment ≠ [])
    (free : '/' ∉ segment) (text : List Char) :
    ∃ front, '/' :: (text ++ '/' :: segment).dropWhile (· == '/') = front ++ '/' :: segment := by
  obtain ⟨first, others, rfl⟩ := List.exists_cons_of_ne_nil notNil
  have apart : first ≠ '/' := fun same => free (same ▸ List.mem_cons_self)
  rw [List.dropWhile_append]
  split
  · exact ⟨[], by simp [apart]⟩
  · exact ⟨'/' :: text.dropWhile (· == '/'), rfl⟩

/-- The last segment of a path is its last part, encoded. -/
theorem exists_segments (kind : Kind) (text : List Char) :
    ∃ front, segments kind text =
      front ++ [Percent.encode Percent.inPath (lastPart kind text)] := by
  obtain ⟨front, parts⟩ := exists_split kind text
  exact ⟨_, by rw [segments, parts, List.map_append, List.map_singleton]⟩

/-- The last segment of a path has no slash. -/
theorem slash_notMem_lastPart (kind : Kind) (text : List Char) :
    '/' ∉ Percent.encode Percent.inPath (lastPart kind text) := by
  intro inside
  obtain ⟨front, segmented⟩ := exists_segments kind text
  have listed : Percent.encode Percent.inPath (lastPart kind text) ∈ segments kind text := by
    rw [segmented]
    simp
  exact absurd (isAllowed_of_mem_segments listed '/' inside).1 (by simp [separates_slash])

/-- A path ends in what stands behind the last separator of its text, unless that is a segment of
dots, a drive letter or nothing. -/
theorem exists_read_lastPart (notNil : lastPart kind text ≠ [])
    (named : IsNamed (Percent.encode Percent.inPath (lastPart kind text)))
    (noDrive : isDrive (Percent.encode Percent.inPath (lastPart kind text)) = false) :
    ∃ front, read kind [] text =
      front ++ '/' :: Percent.encode Percent.inPath (lastPart kind text) := by
  obtain ⟨front, segmented⟩ := exists_segments kind text
  unfold read
  rw [segmented, resolve_concat named fun file => by simp [file.2] at noDrive, List.reverse_cons,
    write, List.flatMap_append, List.flatMap_singleton]
  split
  · exact dropWhile_slash (Percent.encode_ne_nil _ notNil) (slash_notMem_lastPart kind text) _
  · exact ⟨_, rfl⟩

/-! ### Names with a dot -/

/-- Dots are decoded before and after a dot on their own. -/
theorem decodeDots_append_dot (before after : List Char) :
    decodeDots (before ++ '.' :: after) = decodeDots before ++ '.' :: decodeDots after := by
  fun_induction decodeDots before with
  | case1 rest inductionHypothesis | case2 rest inductionHypothesis =>
    simp only [List.cons_append, decodeDots, inductionHypothesis]
  | case3 character rest noLower noUpper inductionHypothesis =>
    -- a dot is no part of an encoded dot, so none begins before it and ends behind it
    have apart {letter : Char} (noDot : letter ≠ '.') (others : List Char)
        (whole : rest ++ '.' :: after = '2' :: letter :: others) :
        ∃ rest', rest = '2' :: letter :: rest' := by
      match rest, whole with
      | [], whole => simp at whole
      | [_], whole => simp [noDot.symm] at whole
      | _ :: _ :: rest', whole =>
        simp only [List.cons_append, List.cons.injEq] at whole
        exact ⟨rest', by rw [whole.1, whole.2.1]⟩
    rw [List.cons_append, decodeDots, inductionHypothesis, List.cons_append]
    · intro others same whole
      obtain ⟨rest', isRest⟩ := apart (by decide) others whole
      exact noLower rest' same isRest
    · intro others same whole
      obtain ⟨rest', isRest⟩ := apart (by decide) others whole
      exact noUpper rest' same isRest
  | case4 => rfl

/-- Decoding dots leaves some characters. -/
theorem decodeDots_ne_nil (notNil : segment ≠ []) : decodeDots segment ≠ [] := by
  fun_cases decodeDots segment <;> simp_all

/-- A text without a percent sign has no dots to decode. -/
theorem decodeDots_of_notMem (free : '%' ∉ segment) : decodeDots segment = segment := by
  fun_induction decodeDots segment with
  | case1 rest | case2 rest => simp at free
  | case3 character rest _ _ inductionHypothesis =>
    rw [inductionHypothesis fun inside => free (.tail _ inside)]
  | case4 => rfl

/-- A dot between other characters makes a segment a name. -/
theorem isNamed_append_dot {before after : List Char} (someBefore : before ≠ [])
    (someAfter : after ≠ []) : IsNamed (before ++ '.' :: after) := by
  have long : 2 < (decodeDots (before ++ '.' :: after)).length := by
    have first := List.length_pos_iff.mpr (decodeDots_ne_nil someBefore)
    have last := List.length_pos_iff.mpr (decodeDots_ne_nil someAfter)
    rw [decodeDots_append_dot, List.length_append, List.length_cons]
    omega
  constructor
  · refine beq_eq_false_iff_ne.mpr fun same => ?_
    simp [same] at long
  · refine beq_eq_false_iff_ne.mpr fun same => ?_
    simp [same] at long

/-- A dot and other characters behind it make a segment a name. -/
theorem isNamed_extended {after : List Char} (someAfter : after ≠ [])
    (plain : '%' ∉ after ∧ '.' ∉ after) (before : List Char) :
    IsNamed (before ++ '.' :: after) := by
  by_cases someBefore : before = []
  · have same : decodeDots (before ++ '.' :: after) = '.' :: after := by
      rw [decodeDots_append_dot, someBefore, decodeDots_of_notMem plain.1]
      rfl
    constructor
    · refine beq_eq_false_iff_ne.mpr fun dots => ?_
      rw [same] at dots
      simp only [List.cons.injEq, true_and] at dots
      exact plain.2 (dots ▸ List.mem_cons_self)
    · refine beq_eq_false_iff_ne.mpr fun dot => ?_
      rw [same] at dot
      simp only [List.cons.injEq, true_and] at dot
      exact someAfter dot
  · exact isNamed_append_dot someBefore someAfter

/-- A dot and what stands for itself behind it only change the last segment of a path. -/
theorem IsResolved.extended {path after : List Char} (resolved : IsResolved kind path)
    (someAfter : after ≠ []) (plain : '%' ∉ after ∧ '.' ∉ after) (allowed : IsAllowed kind after) :
    IsResolved kind (path ++ '.' :: after) := by
  obtain ⟨segs, rfl, notNil, settled⟩ := resolved
  obtain ⟨front, last, rfl⟩ := (List.eq_nil_or_concat' segs).resolve_left notNil
  refine ⟨front ++ [last ++ '.' :: after], by simp [write], by simp, fun segment listed => ?_⟩
  rcases List.mem_append.mp listed with earlier | isLast
  · exact settled segment (List.mem_append_left _ earlier)
  · obtain rfl := List.mem_singleton.mp isLast
    refine ⟨fun character inside => ?_, isNamed_extended someAfter plain last⟩
    rcases List.mem_append.mp inside with earlier | inside
    · exact (settled last (by simp)).allowed character earlier
    · rcases List.mem_cons.mp inside with rfl | later
      · exact ⟨by cases kind <;> rfl, rfl⟩
      · exact allowed character later

/-- A named segment is not one of dots. -/
theorem IsNamed.ne_dots (named : IsNamed segment) : segment ≠ ['.'] ∧ segment ≠ ['.', '.'] := by
  constructor
  · rintro rfl
    exact absurd named.2 (by decide)
  · rintro rfl
    exact absurd named.1 (by decide)

/-- A segment with a dot is no drive letter. -/
theorem isDrive_of_mem (dot : '.' ∈ segment) : isDrive segment = false := by
  fun_cases isDrive segment with
  | case1 letter mark code =>
    simp only [List.mem_cons, List.not_mem_nil, or_false] at dot
    rcases dot with rfl | rfl
    · rfl
    · simp
  | case2 => rfl

end QuizFeed.Url.Path
