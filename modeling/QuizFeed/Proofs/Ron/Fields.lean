import QuizFeed.Proofs.Ron.Layout

/-!
# Reading fields, options and maps

The parts of documents that hold other values: if the text of the value is read as it, whatever
follows, then so is the part that holds it.
-/

namespace QuizFeed.Ron

open Reader

/-- Whether a text is a name that is read as such, and cannot be taken for a literal. -/
def isName (name : List Char) : Bool :=
  match name with
  | [] => false
  | first :: _ =>
    Text.isAsciiLetter first && !(['r', 'b'].contains first) && name.all Text.isIdentifierContinue

/-- A text that may be absent, as a value to be written. -/
def Value.optionalText : Option String → Value
  | .none => .none
  | .some text => .some (.string text)

/-- A text in quotes starts solid. -/
theorem startsSolid_string (level : Nat) (text : String) :
    StartsSolid ((Value.string text).write level) := by
  rw [Value.write_string]
  exact ⟨'"', _, rfl, by decide⟩

/-- A text that may be absent starts solid. -/
theorem startsSolid_optionalText (text : Option String) (level : Nat) :
    StartsSolid ((Value.optionalText text).write level) := by
  cases text with
  | none =>
    rw [Value.optionalText, Value.write_none]
    exact ⟨'N', "one".toList, by decide, by decide⟩
  | some text =>
    rw [Value.optionalText, Value.write_some]
    exact ⟨'S', _, rfl, by decide⟩

/-- A truth value starts solid. -/
theorem startsSolid_boolean (value : Bool) (level : Nat) :
    StartsSolid ((Value.boolean value).write level) := by
  rw [Value.write_boolean]
  cases value with
  | true => exact ⟨'t', "rue".toList, by decide, by decide⟩
  | false => exact ⟨'f', "alse".toList, by decide, by decide⟩

/-- A record starts solid. -/
theorem startsSolid_record (level : Nat) (fields : List (String × Value)) :
    StartsSolid ((Value.record fields).write level) := by
  rw [Value.write_record]
  exact ⟨'(', _, rfl, by decide⟩

namespace Reader

variable {text rest : List Char}

/-- A text is read as it was written. -/
theorem moves_writtenString (level : Nat) (text : String) (rest : List Char) :
    Moves string ((Value.string text).write level ++ rest) text rest := by
  rw [Value.write_string]
  exact moves_string text rest

/-- A word is taken up to a character that is not kept. -/
theorem takeWhile_word {keep : Char → Bool} {name : List Char} (kept : name.all keep)
    {stop : Char} (stops : keep stop = false) (rest : List Char) :
    (name ++ stop :: rest).takeWhile keep = name := by
  rw [List.takeWhile_append_of_pos (List.all_eq_true.mp kept),
    List.takeWhile_cons_of_neg (by simp [stops]), List.append_nil]

/-- A letter starts a word. -/
theorem startsWord_of_isAsciiLetter {character : Char}
    (letter : Text.isAsciiLetter character = true) : startsWord character = true := by
  have ascii : character.toNat < 0x80 := by
    unfold Text.isAsciiLetter at letter
    simp only [Bool.or_eq_true, Bool.and_eq_true, decide_eq_true_eq] at letter
    omega
  unfold startsWord Text.isIdentifierStart
  rw [if_pos ascii, letter, Bool.or_true]

/-- A letter is solid. -/
theorem isSolid_of_isAsciiLetter {character : Char}
    (letter : Text.isAsciiLetter character = true) : IsSolid character := by
  refine ⟨?_, ?_⟩
  · refine Bool.eq_false_iff.mpr fun space => ?_
    have oneOf := List.contains_iff_mem.mp space
    simp only [List.mem_cons, List.not_mem_nil, or_false] at oneOf
    rcases oneOf with rfl | rfl | rfl | rfl | rfl | rfl | rfl | rfl | rfl | rfl | rfl <;>
      exact absurd letter (by decide)
  · rintro rfl
    exact absurd letter (by decide)

/-- A name is read up to where it ends. -/
theorem moves_identifier {name : String} (plain : isName name.toList) {stop : Char}
    (ends : EndsWord stop) (rest : List Char) :
    Moves identifier (name.toList ++ stop :: rest) name (stop :: rest) := by
  generalize spelled : name.toList = spelling at plain
  cases spelling with
  | nil => cases plain
  | cons first others =>
    simp only [isName, Bool.and_eq_true, Bool.not_eq_true'] at plain
    obtain ⟨⟨letter, noLiteral⟩, continued⟩ := plain
    have starts := startsWord_of_isAsciiLetter letter
    have raw : (first :: others).all isRawCharacter := by
      refine List.all_eq_true.mpr fun character member => ?_
      unfold isRawCharacter
      rw [List.all_eq_true.mp continued character member, Bool.or_true]
    have different : first ≠ 'r' ∧ first ≠ 'b' := by simpa using noLiteral
    have noQuote : seesLiteral (first :: others ++ stop :: rest) = false := by
      unfold seesLiteral
      simp [List.isPrefixOf, Ne.symm different.1, Ne.symm different.2]
    have notMarked : ¬ ['r', '#'].isPrefixOf (first :: others ++ stop :: rest) = true := by
      simp [List.isPrefixOf, Ne.symm different.1]
    have takeRaw := takeWhile_word raw ends rest
    have takePlain := takeWhile_word continued ends.notContinued rest
    refine (moves_unread _).bind ?_
    simp only [List.cons_append] at takeRaw takePlain noQuote notMarked ⊢
    rw [if_neg (by simp [starts]), if_neg (by simp [noQuote]), if_neg notMarked, takeRaw, takePlain,
      if_neg (Nat.lt_irrefl _)]
    refine (moves_advance _ _).bind ?_
    have read : String.ofList (first :: others) = name := by
      rw [← spelled, String.ofList_toList]
    rw [read, ← List.cons_append, List.drop_left]
    exact .pure name _

variable {α σ : Type} {value : Reader α} {result : α}

/-- One of two names is read as what it stands for. -/
theorem moves_choice_first {enumeration : String} {first second : String × α}
    (plain : isName first.1.toList) {stop : Char} (ends : EndsWord stop) (rest : List Char) :
    Moves (choice enumeration first second) (first.1.toList ++ stop :: rest) first.2
      (stop :: rest) := by
  refine (moves_identifier plain ends rest).bind ?_
  rw [if_pos rfl]
  exact .pure _ _

/-- The second of two names is read as what it stands for. -/
theorem moves_choice_second {enumeration : String} {first second : String × α}
    (plain : isName second.1.toList) (different : second.1 ≠ first.1) {stop : Char}
    (ends : EndsWord stop) (rest : List Char) :
    Moves (choice enumeration first second) (second.1.toList ++ stop :: rest) second.2
      (stop :: rest) := by
  refine (moves_identifier plain ends rest).bind ?_
  rw [if_neg different, if_pos rfl]
  exact .pure _ _

/-- A value that is not there is read as none. -/
theorem moves_option_none {stop : Char} (ends : EndsWord stop) (rest : List Char) :
    Moves (option value) ("None".toList ++ stop :: rest) none (stop :: rest) := by
  refine (moves_acceptWord "None" ends rest).bind ?_
  rw [if_pos rfl]
  exact .pure _ _

/-- A value that is there is read in its parentheses. -/
theorem moves_option_some (solid : StartsSolid text)
    (reads : Moves value (text ++ ')' :: rest) result (')' :: rest)) :
    Moves (option value) ("Some(".toList ++ text ++ ')' :: rest) (some result) rest := by
  obtain ⟨first, others, rfl, solid⟩ := solid
  have spelled : "Some(".toList = "Some".toList ++ ['('] := by decide
  rw [spelled, List.append_assoc, List.append_assoc, List.singleton_append]
  refine (moves_acceptWord_other (by simp [List.isPrefixOf])).bind ?_
  rw [if_neg (by decide)]
  refine (moves_acceptWord "Some" (by decide) _).bind ?_
  rw [if_pos rfl]
  refine (moves_skipSpace_solid (by decide) _).bind ?_
  refine (moves_acceptOne '(' _).bind ?_
  dsimp only
  rw [if_pos rfl]
  refine (moves_skipSpace_solid solid _).bind ?_
  refine reads.bind ?_
  refine (moves_comma_other (by decide) (by decide) rest).bind ?_
  exact (moves_expect _ _ rest).bind (.pure _ _)

/-- A text that may be absent is read as it was written. -/
theorem moves_optionalText (text : Option String) (level : Nat) (rest : List Char) :
    Moves (option string) ((Value.optionalText text).write level ++ ',' :: rest) text
      (',' :: rest) := by
  cases text with
  | none =>
    rw [Value.optionalText, Value.write_none]
    exact moves_option_none (by decide) rest
  | some text =>
    rw [Value.optionalText, Value.write_some, List.append_assoc]
    exact moves_option_some (startsSolid_string level text)
      (moves_writtenString level text (')' :: ',' :: rest))

/-- A truth value is read as it was written. -/
theorem moves_boolean (value : Bool) (level : Nat) {stop : Char} (ends : EndsWord stop)
    (rest : List Char) :
    Moves boolean ((Value.boolean value).write level ++ stop :: rest) value (stop :: rest) := by
  rw [Value.write_boolean]
  cases value with
  | true =>
    refine (moves_acceptWord "true" ends rest).bind ?_
    exact .pure true _
  | false =>
    refine (moves_acceptWord_other (by simp [List.isPrefixOf])).bind ?_
    refine (moves_acceptWord "false" ends rest).bind ?_
    exact .pure false _

/-- The value of a key is read behind a colon and a space. -/
theorem moves_valueOfKey (solid : StartsSolid text)
    (reads : Moves value (text ++ rest) result rest) :
    Moves (valueOfKey value) (": ".toList ++ text ++ rest) result rest := by
  obtain ⟨first, others, rfl, solid⟩ := solid
  refine (moves_skipSpace_solid (by decide) _).bind ?_
  refine (moves_expect _ _ _).bind ?_
  have behind : (' ' :: (first :: others ++ rest)).dropWhile isSpace =
      first :: (others ++ rest) := by
    rw [List.dropWhile_cons_of_pos (by decide)]
    exact dropWhile_of_solid solid _
  exact (moves_skipSpace solid behind).bind reads

/-- A field that is not set yet is read with its name. -/
theorem moves_field {record name : String} {depth : Nat} {fields : List (RecordField σ)}
    {known : RecordField σ} {state next : σ} (plain : isName name.toList)
    (found : fields.find? (fun field => field.name == name) = some known)
    (unset : known.isSet state = false) (solid : StartsSolid text)
    (reads : Moves (known.read state) (text ++ rest) next rest) :
    Moves (field record depth fields state)
      (name.toList ++ ": ".toList ++ text ++ rest) next rest := by
  have colon := moves_identifier plain (by decide : EndsWord ':') (' ' :: (text ++ rest))
  refine Moves.bind (by simpa using colon) ?_
  rw [found]
  simp only [unset]
  simpa using moves_valueOfKey solid reads

/-- A field of a record is an item, and is read as one if its value is. -/
theorem readsItems_field {record name : String} {depth : Nat} {fields : List (RecordField σ)}
    {known : RecordField σ} {start next state : σ} {level : Nat} {value : Value}
    {later : List (List Char)} (plain : isName name.toList)
    (found : fields.find? (fun field => field.name == name) = some known)
    (unset : known.isSet start = false) (solid : StartsSolid (value.write (level + 1)))
    (reads : ∀ rest, Moves (known.read start) (value.write (level + 1) ++ ',' :: rest) next
      (',' :: rest))
    (readsLater : ReadsItems (field record depth fields) ')' later next state) :
    ReadsItems (field record depth fields) ')' (fieldText level (name, value) :: later)
      start state := by
  refine .next ?_ (fun rest => moves_field plain found unset solid (reads rest)) readsLater
  unfold fieldText
  generalize name.toList = spelling at plain
  cases spelling with
  | nil => cases plain
  | cons first others =>
    simp only [isName, Bool.and_eq_true] at plain
    refine ⟨first, _, rfl, isSolid_of_isAsciiLetter plain.1.1, ?_⟩
    rintro rfl
    exact absurd plain.1.1 (by decide)

/-- What fills a place of a record is read as its value. -/
theorem moves_read_of {name : String} {get : σ → Option α} {set : σ → α → σ}
    (reads : Moves value text result rest) (state : σ) :
    Moves ((RecordField.of name get set value).read state) text (set state result) rest :=
  reads.bind (.pure _ rest)

/-- What fills a place of a record is read as its value, and known from then on. -/
theorem moves_read_of_eq {name : String} {get : σ → Option α} {set : σ → α → σ} {state next : σ}
    (reads : Moves value text result rest) (same : set state result = next) :
    Moves ((RecordField.of name get set value).read state) text next rest :=
  same ▸ moves_read_of reads state

/-- Entries of a map are read in their order, each added to what was read before. -/
theorem readsItems_map {write : α → Value} (add : σ → String → α → σ) (level : Nat)
    (pairs : List (String × α))
    (solid : ∀ pair ∈ pairs, StartsSolid ((write pair.2).write (level + 1)))
    (reads : ∀ pair ∈ pairs, ∀ rest, Moves value
      ((write pair.2).write (level + 1) ++ ',' :: rest) pair.2 (',' :: rest)) (start : σ) :
    ReadsItems (fun state => do
        let key ← string
        let value ← valueOfKey value
        pure (add state key value)) '\x7d'
      (pairs.map fun pair => entryText level (pair.1, write pair.2)) start
      (pairs.foldl (fun state pair => add state pair.1 pair.2) start) := by
  induction pairs generalizing start with
  | nil => exact .none start
  | cons pair pairs inductionHypothesis =>
    obtain ⟨solidFirst, solidOthers⟩ := List.forall_mem_cons.mp solid
    obtain ⟨readsFirst, readsOthers⟩ := List.forall_mem_cons.mp reads
    refine .next ⟨'"', _, rfl, by decide, by decide⟩ (fun rest => ?_)
      (inductionHypothesis solidOthers readsOthers _)
    have key := moves_string pair.1
      (": ".toList ++ (write pair.2).write (level + 1) ++ ',' :: rest)
    refine Moves.bind (by simpa [entryText, Text.quoteList] using key) ?_
    refine (moves_valueOfKey solidFirst (readsFirst rest)).bind ?_
    exact .pure _ _

/-- What stands between the braces of a map are its entries on lines, up to white space. -/
theorem exists_inside_map (level : Nat) (entries : List (String × Value)) :
    ∃ inside, (Value.map entries).write level = '\x7b' :: (inside ++ ['\x7d']) ∧
      entries.length ≤ inside.length ∧
      ∀ rest, (inside ++ '\x7d' :: rest).dropWhile isSpace =
        (lines level (entries.map (entryText level)) ++
          (Value.indent level ++ '\x7d' :: rest)).dropWhile isSpace := by
  cases entries with
  | nil =>
    refine ⟨[], Value.write_map_nil level, Nat.le_refl 0, fun rest => ?_⟩
    rw [List.map_nil, lines, List.flatMap_nil, List.nil_append, List.nil_append,
      dropWhile_isSpace_indent]
  | cons entry entries =>
    refine ⟨'\n' :: lines level ((entry :: entries).map (entryText level)) ++ Value.indent level,
      Value.write_map_cons level entry entries, ?_, fun rest => ?_⟩
    · have fewer := length_le_length_lines level ((entry :: entries).map (entryText level))
      simp only [List.length_map, List.length_append, List.length_cons] at fewer ⊢
      omega
    · rw [List.append_assoc, List.cons_append, List.dropWhile_cons_of_pos (by decide)]

/-- A map starts solid. -/
theorem startsSolid_map (level : Nat) (entries : List (String × Value)) :
    StartsSolid ((Value.map entries).write level) := by
  obtain ⟨inside, written, _⟩ := exists_inside_map level entries
  exact ⟨'\x7b', _, written, by decide⟩

/-- A map is read with the entries that were written. -/
theorem moves_map {write : α → Value} (add : σ → String → α → σ) (level : Nat)
    (pairs : List (String × α))
    (solid : ∀ pair ∈ pairs, StartsSolid ((write pair.2).write (level + 1)))
    (reads : ∀ pair ∈ pairs, ∀ rest, Moves value
      ((write pair.2).write (level + 1) ++ ',' :: rest) pair.2 (',' :: rest))
    (start : σ) (rest : List Char) :
    Moves (map value add start)
      ((Value.map (pairs.map fun pair => (pair.1, write pair.2))).write level ++ rest)
      (pairs.foldl (fun state pair => add state pair.1 pair.2) start) rest := by
  have items := readsItems_map add level pairs solid reads start
  obtain ⟨inside, written, enough, behind⟩ :=
    exists_inside_map level (pairs.map fun pair => (pair.1, write pair.2))
  have closed := behind rest
  rw [List.map_map] at closed
  rw [written, List.cons_append, List.append_assoc, List.singleton_append]
  refine (moves_expect '\x7b' _ _).bind ?_
  refine items.moves_enclosed (by decide) _ level ?_ closed
  simp only [List.length_map, List.length_append] at enough ⊢
  omega

/-- A record with some fields, as a value to be written. Without fields it takes no lines. -/
def recordOf : List (String × Value) → Value
  | [] => .word "()"
  | written => .record written

/-- A record starts with its parenthesis. -/
theorem exists_write_recordOf (level : Nat) (written : List (String × Value)) :
    ∃ others, (recordOf written).write level = '(' :: others := by
  cases written with
  | nil => exact ⟨[')'], by rw [recordOf, Value.write_word]; decide⟩
  | cons first others =>
    rw [recordOf, Value.write_record]
    · exact ⟨_, rfl⟩
    · exact List.cons_ne_nil first others

/-- A record with any fields starts solid. -/
theorem startsSolid_recordOf (level : Nat) (written : List (String × Value)) :
    StartsSolid ((recordOf written).write level) := by
  obtain ⟨others, spelled⟩ := exists_write_recordOf level written
  exact ⟨'(', others, spelled, by decide⟩

/-- A record is read, if its fields are and they complete it. -/
theorem ReadsItems.moves_recordOf {record : String} {depth level : Nat}
    {fields : List (RecordField σ)} {finish : σ → Except Cause α} {start state : σ}
    {written : List (String × Value)}
    (reads : ReadsItems (field record depth fields) ')' (written.map (fieldText level)) start state)
    (complete : finish state = .ok result) (rest : List Char) :
    Moves (Reader.record record depth fields start finish)
      ((recordOf written).write level ++ rest) result rest := by
  cases written with
  | nil =>
    rw [recordOf, Value.write_word]
    exact reads.moves_parentheses complete (Nat.zero_le _) 0 rfl
  | cons => exact reads.moves_record complete rest

/-- The fields of a record, for some values of them: what is written for each, how it is read, what
is known when some of them have been read, and what a record with only these is completed to. A
field that is not known is read with what is written for it. -/
structure RecordFields (κ σ α : Type) where
  fields : List (RecordField σ)
  complete : σ → α
  name : κ → String
  written : κ → Value
  reading : κ → RecordField σ
  known : List κ → σ
  kept : List κ → α
  isName_name : ∀ key, isName (name key).toList
  find?_name : ∀ key, fields.find? (fun field => field.name == name key) = some (reading key)
  startsSolid_written : ∀ key level, StartsSolid ((written key).write level)
  isSet_known : ∀ key read, key ∉ read → (reading key).isSet (known read) = false
  moves_written : ∀ key read level rest, Moves ((reading key).read (known read))
    ((written key).write level ++ ',' :: rest) (known (key :: read)) (',' :: rest)
  complete_known : ∀ read, complete (known read.reverse) = kept read

namespace RecordFields

variable {κ : Type} (layout : RecordFields κ σ α) {chosen : List κ}

/-- A field with its name, as it is written. -/
def item (key : κ) : String × Value :=
  (layout.name key, layout.written key)

/-- Fields are read in whatever order they are chosen. -/
theorem readsItems (record : String) (depth level : Nat) (distinct : chosen.Nodup) {read : List κ}
    (fresh : ∀ key ∈ chosen, key ∉ read) :
    ReadsItems (field record depth layout.fields) ')'
      ((chosen.map layout.item).map (fieldText level)) (layout.known read)
      (layout.known (chosen.reverse ++ read)) := by
  induction chosen generalizing read with
  | nil => exact .none _
  | cons key chosen inductionHypothesis =>
    obtain ⟨first, distinct⟩ := List.nodup_cons.mp distinct
    obtain ⟨unread, fresh⟩ := List.forall_mem_cons.mp fresh
    rw [List.reverse_cons, List.append_assoc, List.singleton_append]
    refine readsItems_field (layout.isName_name key) (layout.find?_name key)
      (layout.isSet_known key read unread) (layout.startsSolid_written key _)
      (layout.moves_written key read _) (inductionHypothesis distinct ?_)
    intro other member
    rw [List.mem_cons, not_or]
    exact ⟨fun same => first (same ▸ member), fresh other member⟩

/-- A record with some of its fields, in whatever order, is read as what these are completed to. -/
theorem moves_reader (distinct : chosen.Nodup) (record : String) (depth level : Nat)
    (rest : List Char) :
    Moves (Reader.record record depth layout.fields (layout.known [])
        fun read => .ok (layout.complete read))
      ((recordOf (chosen.map layout.item)).write level ++ rest) (layout.kept chosen) rest := by
  have reads := layout.readsItems record depth level distinct
    (fun _ _ => List.not_mem_nil : ∀ key ∈ chosen, key ∉ [])
  rw [List.append_nil] at reads
  exact reads.moves_recordOf (by rw [layout.complete_known]) rest

end RecordFields

/-- A document without a header is read as its value. -/
theorem moves_document (solid : StartsSolid text) (noHeader : text.head? ≠ some '#')
    (reads : Moves value text result []) : Moves (document value) text result [] := by
  obtain ⟨first, others, rfl, solid⟩ := solid
  have sameMode : Moves (modify fun cursor => { cursor with mode := {} } : Reader Unit)
      (first :: others) () (first :: others) := fun marked => ⟨marked, rfl⟩
  refine (moves_skipSpace_solid solid others).bind ?_
  refine (moves_unread _).bind ?_
  have header : Moves (header ((first :: others).length + 1) {}) (first :: others) {}
      (first :: others) := by
    refine (moves_peek _).bind ?_
    rw [if_neg noHeader]
    exact .pure _ _
  refine header.bind ?_
  refine sameMode.bind ?_
  refine reads.bind ?_
  have atEnd : Moves skipSpace [] () [] := fun marked => ⟨marked, rfl⟩
  refine atEnd.bind ?_
  refine (moves_unread []).bind ?_
  exact .pure result []

/-- A reader that moves over a whole text reads it. -/
theorem read_of_moves {text : String} (moves : Moves (document value) text.toList result []) :
    Ron.read value text = .ok result := by
  obtain ⟨after, read⟩ := moves text.toList
  unfold Ron.read
  rw [read]
  rfl

end Reader
end QuizFeed.Ron
