import Mathlib.Data.Bool.AllAny
import Mathlib.Data.List.Forall2
import QuizFeed.Proofs.Text.Directions
import QuizFeed.Proofs.Text.Splitting
import QuizFeed.Proofs.Url.Bootstring

/-!
# Domain names are in ASCII once

The ASCII form of a domain name is its own ASCII form (`toAscii_of_toAscii`): its labels are read
back from their `xn--` forms, nothing in it is mapped again, and so the same labels are checked
(`IsName`).
-/

namespace QuizFeed.Url.Domain

open QuizFeed.Text

variable {separator character : Char} {text part label name written : List Char}
  {parts labels : List (List Char)}

/-- Splitting at a separator is what the library does. -/
theorem splitAt_eq_splitOn (separator : Char) (text : List Char) :
    splitAt separator text = text.splitOn separator := by
  induction text with
  | nil => rfl
  | cons character rest inductionHypothesis =>
    rw [splitAt, List.splitOn_cons_eq_if_modifyHead, inductionHypothesis]
    by_cases same : character = separator
    · simp [same]
    · obtain ⟨first, others, split⟩ :=
        List.exists_cons_of_ne_nil (List.splitOn_ne_nil separator rest)
      simp [same, split]

/-- Joining with a separator is what the library does. -/
theorem joinWith_eq_intercalate (separator : Char) (parts : List (List Char)) :
    joinWith separator parts = [separator].intercalate parts := by
  fun_induction joinWith separator parts with
  | case1 => rfl
  | case2 part => simp
  | case3 part rest notNil inductionHypothesis =>
    obtain ⟨next, others, rfl⟩ := List.exists_cons_of_ne_nil notNil
    rw [inductionHypothesis, List.intercalate_cons_cons, List.append_assoc]
    rfl

/-- Parts that are joined again are the text. -/
theorem joinWith_splitAt (separator : Char) (text : List Char) :
    joinWith separator (splitAt separator text) = text := by
  rw [splitAt_eq_splitOn, joinWith_eq_intercalate, List.intercalate_splitOn]

/-- Parts without the separator are split again where they were joined. -/
theorem splitAt_joinWith (notNil : parts ≠ []) (free : ∀ part ∈ parts, separator ∉ part) :
    splitAt separator (joinWith separator parts) = parts := by
  rw [splitAt_eq_splitOn, joinWith_eq_intercalate, List.splitOn_intercalate _ free notNil]

/-- Even the empty text has a part. -/
theorem splitAt_ne_nil (separator : Char) (text : List Char) : splitAt separator text ≠ [] := by
  rw [splitAt_eq_splitOn]
  exact List.splitOn_ne_nil separator text

/-- A part has no separator in it. -/
theorem notMem_of_mem_splitAt (found : part ∈ splitAt separator text) : separator ∉ part := by
  rw [splitAt_eq_splitOn] at found
  exact notMem_of_mem_splitOn found

/-- A character of a joined text is a separator or in one of the parts. -/
theorem mem_joinWith (found : character ∈ joinWith separator parts) :
    character = separator ∨ ∃ part ∈ parts, character ∈ part := by
  fun_induction joinWith separator parts with
  | case1 => cases found
  | case2 part => exact .inr ⟨part, List.mem_cons_self, found⟩
  | case3 part rest notNil inductionHypothesis =>
    rcases List.mem_append.mp found with first | later
    · exact .inr ⟨part, List.mem_cons_self, first⟩
    · rcases List.mem_cons.mp later with same | later
      · exact .inl same
      · obtain same | ⟨other, listed, inside⟩ := inductionHypothesis later
        · exact .inl same
        · exact .inr ⟨other, List.mem_cons_of_mem _ listed, inside⟩

/-- A character of one of the parts is in the joined text. -/
theorem mem_joinWith_of_mem (listed : part ∈ parts) (inside : character ∈ part) :
    character ∈ joinWith separator parts := by
  fun_induction joinWith separator parts with
  | case1 => cases listed
  | case2 => rwa [List.mem_singleton.mp listed] at inside
  | case3 first rest notNil inductionHypothesis =>
    rcases List.mem_cons.mp listed with rfl | later
    · exact List.mem_append_left _ inside
    · exact List.mem_append_right _ (List.mem_cons_of_mem _ (inductionHypothesis later))

/-- What is read from a list is read from its members one by one. -/
theorem forall₂_of_mapM {α β : Type} {read : α → Option β} {list : List α} {results : List β}
    (all : list.mapM read = some results) :
    List.Forall₂ (fun member result => read member = some result) list results := by
  induction list generalizing results with
  | nil =>
    cases all
    exact .nil
  | cons member rest inductionHypothesis =>
    rw [List.mapM_cons] at all
    obtain ⟨first, isFirst, afterFirst⟩ := Option.bind_eq_some_iff.mp all
    obtain ⟨others, areOthers, whole⟩ := Option.bind_eq_some_iff.mp afterFirst
    cases whole
    exact .cons isFirst (inductionHypothesis areOthers)

/-- A result comes from some member of the list. -/
theorem exists_of_mapM {α β : Type} {read : α → Option β} {list : List α} {results : List β}
    (all : list.mapM read = some results) {result : β} (found : result ∈ results) :
    ∃ member ∈ list, read member = some result := by
  have related := forall₂_of_mapM all
  clear all
  induction related with
  | nil => cases found
  | cons isFirst _ inductionHypothesis =>
    rcases List.mem_cons.mp found with rfl | later
    · exact ⟨_, List.mem_cons_self, isFirst⟩
    · obtain ⟨member, listed, isRead⟩ := inductionHypothesis later
      exact ⟨member, List.mem_cons_of_mem _ listed, isRead⟩

/-- Every member of the list has a result. -/
theorem exists_of_mem_mapM {α β : Type} {read : α → Option β} {list : List α} {results : List β}
    (all : list.mapM read = some results) {member : α} (listed : member ∈ list) :
    ∃ result, read member = some result := by
  have related := forall₂_of_mapM all
  clear all
  induction related with
  | nil => cases listed
  | cons isFirst _ inductionHypothesis =>
    rcases List.mem_cons.mp listed with rfl | later
    · exact ⟨_, isFirst⟩
    · exact inductionHypothesis later

/-- Whether a character stands for itself in an ASCII name. -/
structure IsPlain (character : Char) : Prop where
  ascii : isAscii character = true
  lower : lowerAscii character = character

/-- A plain character is mapped to itself. -/
theorem IsPlain.mapCharacter_eq (plain : IsPlain character) :
    mapCharacter character = some [character] := by
  have ascii := plain.ascii
  unfold isAscii at ascii
  rw [decide_eq_true_iff] at ascii
  rw [mapCharacter, if_pos ascii, plain.lower]

/-- An ASCII character that is mapped to itself is plain. -/
theorem IsPlain.of_mapCharacter_eq (ascii : isAscii character = true)
    (mapped : mapCharacter character = some [character]) : IsPlain character := by
  refine ⟨ascii, ?_⟩
  unfold isAscii at ascii
  rw [decide_eq_true_iff] at ascii
  rw [mapCharacter, if_pos ascii] at mapped
  simpa using mapped

/-- A digit of a distance is plain. -/
theorem isPlain_of_isDigit (digit : Bootstring.IsDigit character) : IsPlain character := by
  obtain ⟨value, small, rfl⟩ := digit
  have all : ∀ value < 36, isAscii (Bootstring.digit value) = true ∧
      lowerAscii (Bootstring.digit value) = Bootstring.digit value := by decide
  exact ⟨(all value small).1, (all value small).2⟩

/-- Mapping leaves a name of characters that stand for themselves as it is. -/
theorem mapM_mapCharacter (plain : ∀ character ∈ name, IsPlain character) :
    name.mapM mapCharacter = some (name.map fun character => [character]) := by
  induction name with
  | nil => rfl
  | cons first rest inductionHypothesis =>
    obtain ⟨firstPlain, restPlain⟩ := List.forall_mem_cons.mp plain
    rw [List.mapM_cons, firstPlain.mapCharacter_eq, inductionHypothesis restPlain]
    rfl

/-- Composing leaves ASCII text as it is. -/
theorem compose_of_isAscii (ascii : ∀ character ∈ text, isAscii character = true) :
    compose text = text := by
  rw [compose, if_pos]
  rw [List.all_eq_true]
  intro character found
  have := ascii character found
  unfold isAscii at this
  rw [decide_eq_true_iff] at this ⊢
  omega

/-- The labels of a name that has an ASCII form. -/
structure IsName (labels : List (List Char)) : Prop where
  notNil : labels ≠ []
  noDot : ∀ label ∈ labels, '.' ∉ label
  readBack : ∀ label ∈ labels, plainLabel (writeLabel label) = some label
  fits : ∀ label ∈ labels, labelFits label = true
  directed : (!labels.any (·.any turnsDirection) || labels.all directionFits) = true
  allowed : ∀ character ∈ joinWith '.' (labels.map writeLabel), isForbidden character = false

/-- The characters of a label that fits are mapped to themselves. -/
theorem mapCharacter_of_labelFits (fits : labelFits label = true) (inside : character ∈ label) :
    mapCharacter character = some [character] := by
  simp only [labelFits, isSettled, Bool.and_eq_true, List.all_eq_true, beq_iff_eq] at fits
  exact fits.1.1.1 character inside

/-- A label is written with plain characters. -/
theorem isPlain_of_mem_writeLabel (fits : labelFits label = true)
    (found : character ∈ writeLabel label) : IsPlain character := by
  unfold writeLabel at found
  split at found
  · rename_i ascii
    exact .of_mapCharacter_eq (List.all_eq_true.mp ascii character found)
      (mapCharacter_of_labelFits fits found)
  · rcases List.mem_append.mp found with mark | written
    · have all : ∀ character ∈ encodedMark,
          isAscii character = true ∧ lowerAscii character = character :=
        List.all_iff_forall_prop.mp (by decide)
      exact ⟨(all character mark).1, (all character mark).2⟩
    · rcases Bootstring.mem_encode written with ⟨own, small⟩ | rfl | digit
      · exact .of_mapCharacter_eq (by simpa [isAscii] using small)
          (mapCharacter_of_labelFits fits own)
      · exact ⟨by decide, by decide⟩
      · exact isPlain_of_isDigit digit

/-- A name is written with plain characters. -/
theorem IsName.isPlain (isName : IsName labels)
    (found : character ∈ joinWith '.' (labels.map writeLabel)) : IsPlain character := by
  rcases mem_joinWith found with rfl | ⟨part, listed, inside⟩
  · exact ⟨by decide, by decide⟩
  · obtain ⟨label, isLabel, rfl⟩ := List.mem_map.mp listed
    exact isPlain_of_mem_writeLabel (isName.fits label isLabel) inside

/-- A label without a dot is written without one. -/
theorem dot_notMem_writeLabel (noDot : '.' ∉ label) : '.' ∉ writeLabel label := by
  intro found
  unfold writeLabel at found
  split at found
  · exact noDot found
  · rcases List.mem_append.mp found with mark | written
    · revert mark
      decide
    · rcases Bootstring.mem_encode written with ⟨own, -⟩ | hyphen | ⟨value, small, isDigit⟩
      · exact noDot own
      · revert hyphen
        decide
      · have all : ∀ value < 36, '.' ≠ Bootstring.digit value := by decide
        exact all value small isDigit

/-- The labels of a name are read from what is written for them. -/
theorem IsName.mapM_plainLabel (isName : IsName labels) :
    (labels.map writeLabel).mapM plainLabel = some labels := by
  have readBack := isName.readBack
  clear isName
  induction labels with
  | nil => rfl
  | cons first rest inductionHypothesis =>
    obtain ⟨firstBack, restBack⟩ := List.forall_mem_cons.mp readBack
    rw [List.map_cons, List.mapM_cons, firstBack, inductionHypothesis restBack]
    rfl

/-- The labels of a name are found again in its ASCII form. -/
theorem IsName.toAscii_eq (isName : IsName labels) :
    toAscii (joinWith '.' (labels.map writeLabel)) =
      some (joinWith '.' (labels.map writeLabel)) := by
  have isPlain (character) (found : character ∈ joinWith '.' (labels.map writeLabel)) :
      IsPlain character := isName.isPlain found
  have composed := compose_of_isAscii fun character found => (isPlain character found).ascii
  have split : splitAt '.' (joinWith '.' (labels.map writeLabel)) = labels.map writeLabel := by
    refine splitAt_joinWith (by simpa using isName.notNil) fun part listed => ?_
    obtain ⟨label, isLabel, rfl⟩ := List.mem_map.mp listed
    exact dot_notMem_writeLabel (isName.noDot label isLabel)
  have fits : labels.all labelFits = true := List.all_eq_true.mpr isName.fits
  have allowed : (joinWith '.' (labels.map writeLabel)).any isForbidden = false := by
    rw [List.any_eq_false]
    intro character found
    rw [isName.allowed character found]
    exact Bool.false_ne_true
  have whole : ((joinWith '.' (labels.map writeLabel)).map fun character => [character]).flatten =
      joinWith '.' (labels.map writeLabel) := by
    rw [← List.flatMap_def, List.flatMap_singleton']
  unfold toAscii
  rw [mapM_mapCharacter isPlain]
  dsimp only [bind, Option.bind]
  rw [whole, composed, split, isName.mapM_plainLabel]
  dsimp only
  rw [fits, isName.directed, allowed]
  rfl

/-- A label that was checked is checked again when its ASCII form is read. -/
theorem plainLabel_writeLabel (isLabel : plainLabel text = some label) :
    plainLabel (writeLabel label) = some label := by
  unfold plainLabel at isLabel
  by_cases ascii : label.all isAscii = true
  · rw [writeLabel, if_pos ascii]
    split at isLabel
    · unfold decodeLabel at isLabel
      split at isLabel
      · cases isLabel
      · rename_i decoded _
        split at isLabel
        · cases isLabel
        · rename_i beyond
          exact absurd (Option.some.inj isLabel ▸ ascii) beyond
    · rename_i noMark
      cases isLabel
      rw [plainLabel, if_neg noMark]
  · have isMarked : encodedMark.isPrefixOf (encodedMark ++ Bootstring.encode label) = true :=
      List.isPrefixOf_iff_prefix.mpr (List.prefix_append ..)
    rw [writeLabel, if_neg ascii, plainLabel, if_pos isMarked, decodeLabel, List.drop_left,
      Bootstring.decode_encode]
    exact if_neg ascii

/-- A label that is read from a text without a dot has none. -/
theorem dot_notMem_of_plainLabel (isLabel : plainLabel text = some label) (noDot : '.' ∉ text) :
    '.' ∉ label := by
  unfold plainLabel at isLabel
  split at isLabel
  · unfold decodeLabel at isLabel
    split at isLabel
    · cases isLabel
    · rename_i decoded read
      split at isLabel
      · cases isLabel
      · cases isLabel
        intro found
        rcases Bootstring.mem_decode read found with own | beyond
        · exact noDot (List.mem_of_mem_drop own)
        · revert beyond
          decide
  · cases isLabel
    exact noDot

/-- A name that has an ASCII form has labels of which that form is put together. -/
theorem exists_isName (isAsciiForm : toAscii name = some written) :
    ∃ labels, IsName labels ∧ written = joinWith '.' (labels.map writeLabel) := by
  unfold toAscii at isAsciiForm
  obtain ⟨mapped, -, afterMapping⟩ := Option.bind_eq_some_iff.mp isAsciiForm
  obtain ⟨labels, isLabels, afterReading⟩ := Option.bind_eq_some_iff.mp afterMapping
  dsimp only at afterReading
  split at afterReading
  · rename_i checked
    cases afterReading
    simp only [Bool.and_eq_true, Bool.not_eq_true'] at checked
    obtain ⟨⟨fits, directed⟩, allowed⟩ := checked
    refine ⟨labels, ?_, rfl⟩
    refine ⟨?_, ?_, ?_, List.all_eq_true.mp fits, directed, ?_⟩
    · rintro rfl
      exact splitAt_ne_nil _ _ (List.forall₂_nil_right_iff.mp (forall₂_of_mapM isLabels))
    · intro label listed
      obtain ⟨text, isText, isLabel⟩ := exists_of_mapM isLabels listed
      exact dot_notMem_of_plainLabel isLabel (notMem_of_mem_splitAt isText)
    · intro label listed
      obtain ⟨text, -, isLabel⟩ := exists_of_mapM isLabels listed
      exact plainLabel_writeLabel isLabel
    · intro character found
      simpa using List.any_eq_false.mp allowed character found
  · cases afterReading

/-- The ASCII form of a name is its own ASCII form. -/
theorem toAscii_of_toAscii (isAsciiForm : toAscii name = some written) :
    toAscii written = some written := by
  obtain ⟨labels, isName, rfl⟩ := exists_isName isAsciiForm
  exact isName.toAscii_eq

/-- The characters of an ASCII form may stand in a name, as they are. -/
theorem isPlain_of_toAscii (isAsciiForm : toAscii name = some written)
    (found : character ∈ written) : IsPlain character ∧ isForbidden character = false := by
  obtain ⟨labels, isName, rfl⟩ := exists_isName isAsciiForm
  exact ⟨isName.isPlain found, isName.allowed character found⟩

/-- An ASCII character has a small code. -/
theorem lt_of_isAscii (ascii : isAscii character = true) : character.toNat < 0x80 := by
  simpa [isAscii] using ascii

/-- ASCII characters are no joiners. -/
theorem joinersFit_of_isAscii (before : List Char)
    (ascii : ∀ character ∈ text, isAscii character = true) : joinersFit before text = true := by
  induction text generalizing before with
  | nil => rfl
  | cons first rest inductionHypothesis =>
    obtain ⟨firstAscii, restAscii⟩ := List.forall_mem_cons.mp ascii
    have noJoiner : (first == Char.ofNat 0x200C || first == Char.ofNat 0x200D) = false := by
      have small := lt_of_isAscii firstAscii
      rw [Bool.or_eq_false_iff, beq_eq_false_iff_ne, beq_eq_false_iff_ne]
      constructor
      · rintro rfl
        revert small
        decide
      · rintro rfl
        revert small
        decide
    rw [joinersFit, noJoiner, inductionHypothesis _ restAscii]
    rfl

/-- A label of characters that stand for themselves fits. -/
theorem labelFits_of_isPlain (plain : ∀ character ∈ label, IsPlain character) :
    labelFits label = true := by
  have ascii (character) (found : character ∈ label) := (plain character found).ascii
  have mapped : (label.all fun character => mapCharacter character == some [character]) = true :=
    List.all_eq_true.mpr fun character found =>
      beq_iff_eq.mpr (plain character found).mapCharacter_eq
  have noMark : label.head?.any isMark = false := by
    cases label with
    | nil => rfl
    | cons first rest =>
      have small := lt_of_isAscii (ascii first List.mem_cons_self)
      simp [isMark, Nat.not_le.mpr small]
  rw [labelFits, isSettled, mapped, compose_of_isAscii ascii, noMark,
    joinersFit_of_isAscii [] ascii, beq_self_eq_true]
  rfl

/-- A name of characters that may stand in a name as they are is its own ASCII form, if none of its
labels begins like an `xn--` form. -/
theorem toAscii_of_isPlain (plain : ∀ character ∈ name, IsPlain character)
    (allowed : ∀ character ∈ name, isForbidden character = false)
    (unmarked : ∀ label ∈ splitAt '.' name, encodedMark.isPrefixOf label = false) :
    toAscii name = some name := by
  have labelPlain (label) (listed : label ∈ splitAt '.' name) (character)
      (inside : character ∈ label) : IsPlain character := by
    refine plain character ?_
    rw [← joinWith_splitAt '.' name]
    exact mem_joinWith_of_mem listed inside
  have written (label) (listed : label ∈ splitAt '.' name) : writeLabel label = label :=
    if_pos (List.all_eq_true.mpr fun character inside =>
      (labelPlain label listed character inside).ascii)
  have whole : joinWith '.' ((splitAt '.' name).map writeLabel) = name := by
    rw [List.map_congr_left written, List.map_id'', joinWith_splitAt]
    exact fun _ => rfl
  have isName : IsName (splitAt '.' name) := {
    notNil := splitAt_ne_nil '.' name
    noDot := fun label => notMem_of_mem_splitAt
    readBack := by
      intro label listed
      rw [written label listed, plainLabel, unmarked label listed]
      rfl
    fits := fun label listed => labelFits_of_isPlain (labelPlain label listed)
    directed := by
      have straight : ((splitAt '.' name).any (·.any turnsDirection)) = false := by
        rw [List.any_eq_false]
        intro label listed
        rw [Bool.not_eq_true, List.any_eq_false]
        intro character inside
        rw [turnsDirection_of_isAscii (labelPlain label listed character inside).ascii]
        exact Bool.false_ne_true
      rw [straight]
      rfl
    allowed := by rwa [whole] }
  have again := isName.toAscii_eq
  rwa [whole] at again

end QuizFeed.Url.Domain
