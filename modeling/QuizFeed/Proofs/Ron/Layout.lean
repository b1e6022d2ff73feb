import QuizFeed.Proofs.Ron.Quoted
import QuizFeed.Ron.Printer

/-!
# Reading what is laid out in lines

A record or a map is written with each item on a line of its own, indented and with a comma behind
it. If each item is read as it should be, up to its comma, then so are the items together, the
record and the map.
-/

namespace QuizFeed.Ron

/-- Whether a text starts with a character at which reading goes on. -/
def StartsSolid (text : List Char) : Prop :=
  ∃ first others, text = first :: others ∧ Reader.IsSolid first

/-- Texts on lines of their own, one level deeper and with a comma behind each. -/
def lines (level : Nat) (texts : List (List Char)) : List Char :=
  texts.flatMap fun text => Value.indent (level + 1) ++ text ++ ",\n".toList

/-- The text of a field: its name, a colon and its value. -/
def fieldText (level : Nat) (field : String × Value) : List Char :=
  field.1.toList ++ ": ".toList ++ field.2.write (level + 1)

/-- The text of an entry of a map: its key in quotes, a colon and its value. -/
def entryText (level : Nat) (entry : String × Value) : List Char :=
  Text.quoteList entry.1.toList ++ ": ".toList ++ entry.2.write (level + 1)

namespace Value

variable (level : Nat)

@[simp] theorem write_string (text : String) :
    (string text).write level = Text.quoteList text.toList := rfl

@[simp] theorem write_boolean (value : Bool) :
    (boolean value).write level = (if value then "true" else "false").toList := rfl

@[simp] theorem write_word (name : String) : (word name).write level = name.toList := rfl

@[simp] theorem write_none : none.write level = "None".toList := rfl

@[simp] theorem write_some (value : Value) :
    (some value).write level = "Some(".toList ++ value.write level ++ [')'] := rfl

/-- The fields of a record stand on lines. -/
theorem writeFields_eq_lines (fields : List (String × Value)) :
    writeFields level fields = lines level (fields.map (fieldText level)) := by
  induction fields with
  | nil => rfl
  | cons field fields inductionHypothesis =>
    change indent (level + 1) ++ field.1.toList ++ ": ".toList ++ field.2.write (level + 1) ++
      ",\n".toList ++ writeFields level fields = _
    simp only [inductionHypothesis, lines, fieldText, List.map_cons, List.flatMap_cons,
      List.append_assoc]

/-- The entries of a map stand on lines. -/
theorem writeEntries_eq_lines (entries : List (String × Value)) :
    writeEntries level entries = lines level (entries.map (entryText level)) := by
  induction entries with
  | nil => rfl
  | cons entry entries inductionHypothesis =>
    change indent (level + 1) ++ Text.quoteList entry.1.toList ++ ": ".toList ++
      entry.2.write (level + 1) ++ ",\n".toList ++ writeEntries level entries = _
    simp only [inductionHypothesis, lines, entryText, List.map_cons, List.flatMap_cons,
      List.append_assoc]

/-- A record has its fields between parentheses. -/
theorem write_record (fields : List (String × Value)) :
    (record fields).write level =
      '(' :: '\n' :: lines level (fields.map (fieldText level)) ++ indent level ++ [')'] := by
  rw [← writeFields_eq_lines]
  rfl

@[simp] theorem write_map_nil : (map []).write level = ['\x7b', '\x7d'] := rfl

/-- A map with entries has them between braces. -/
theorem write_map_cons (entry : String × Value) (entries : List (String × Value)) :
    (map (entry :: entries)).write level =
      '\x7b' :: '\n' :: lines level ((entry :: entries).map (entryText level)) ++ indent level ++
        ['\x7d'] := by
  rw [← writeEntries_eq_lines]
  rfl

end Value

/-- The indent of a line is white space. -/
theorem dropWhile_isSpace_indent (level : Nat) (text : List Char) :
    (Value.indent level ++ text).dropWhile Reader.isSpace = text.dropWhile Reader.isSpace := by
  refine List.dropWhile_append_of_pos fun character member => ?_
  rw [List.eq_of_mem_replicate member]
  decide

/-- Every text on a line takes at least one character. -/
theorem length_le_length_lines (level : Nat) (texts : List (List Char)) :
    texts.length ≤ (lines level texts).length := by
  induction texts with
  | nil => simp [lines]
  | cons text texts inductionHypothesis =>
    simp only [lines, List.flatMap_cons, List.length_append, List.length_cons] at *
    have ending : ",\n".toList.length = 2 := by decide
    omega

namespace Reader

variable {σ : Type} {item : σ → Reader σ} {closing : Char} {texts : List (List Char)}
  {start state : σ} {text rest : List Char}

/-- Whether a text starts an item, and not white space or what closes the items. -/
def StartsItem (closing : Char) (text : List Char) : Prop :=
  ∃ first others, text = first :: others ∧ IsSolid first ∧ first ≠ closing

/-- A reader of items reads texts one after the other, each up to the comma behind it. -/
inductive ReadsItems (item : σ → Reader σ) (closing : Char) : List (List Char) → σ → σ → Prop
  | none (state : σ) : ReadsItems item closing [] state state
  | next {text : List Char} {later : List (List Char)} {start next state : σ}
      (starts : StartsItem closing text)
      (reads : ∀ rest, Moves (item start) (text ++ ',' :: rest) next (',' :: rest))
      (readsLater : ReadsItems item closing later next state) :
      ReadsItems item closing (text :: later) start state

/-- What stands behind the white space in front of the items and the closing character. -/
theorem ReadsItems.behind_space (reads : ReadsItems item closing texts start state)
    (solid : IsSolid closing) (level : Nat) (rest : List Char) :
    ∃ first others, IsSolid first ∧
      (lines level texts ++ (Value.indent level ++ closing :: rest)).dropWhile isSpace =
        first :: others := by
  cases reads with
  | none =>
    refine ⟨closing, rest, solid, ?_⟩
    rw [lines, List.flatMap_nil, List.nil_append, dropWhile_isSpace_indent,
      List.dropWhile_cons_of_neg (by simp [solid.1])]
  | next starts =>
    obtain ⟨first, others, rfl, solidFirst, _⟩ := starts
    simp only [lines, List.flatMap_cons, List.append_assoc, dropWhile_isSpace_indent]
    exact ⟨_, _, solidFirst, List.dropWhile_cons_of_neg (by simp [solidFirst.1])⟩

/-- No white space is dropped before a solid character. -/
theorem dropWhile_of_solid {character : Char} (solid : IsSolid character) (rest : List Char) :
    (character :: rest).dropWhile isSpace = character :: rest :=
  List.dropWhile_cons_of_neg (by simp [solid.1])

/-- Items on lines are read up to the closing character behind them. -/
theorem ReadsItems.moves_items (reads : ReadsItems item closing texts start state)
    (solid : IsSolid closing) {fuel : Nat} (enough : texts.length < fuel) (level : Nat)
    (behind : text.dropWhile isSpace =
      (lines level texts ++ (Value.indent level ++ closing :: rest)).dropWhile isSpace) :
    Moves (items closing item fuel true start) text state (closing :: rest) := by
  obtain ⟨fuel, rfl⟩ : ∃ fewer, fuel = fewer + 1 := ⟨fuel - 1, by omega⟩
  induction reads generalizing text fuel with
  | none state =>
    have atClosing : text.dropWhile isSpace = closing :: rest := by
      rw [behind, lines, List.flatMap_nil, List.nil_append, dropWhile_isSpace_indent,
        dropWhile_of_solid solid]
    refine (moves_skipSpace solid atClosing).bind ?_
    refine (moves_peek _).bind ?_
    rw [if_pos (by rfl)]
    exact .pure _ _
  | @next item later start next state starts reads readsLater inductionHypothesis =>
    obtain ⟨first, others, rfl, solidFirst, different⟩ := starts
    have atFirst : text.dropWhile isSpace = first :: (others ++ ',' :: '\n' ::
        (lines level later ++ (Value.indent level ++ closing :: rest))) := by
      rw [behind]
      simp only [lines, List.flatMap_cons, List.append_assoc, dropWhile_isSpace_indent]
      exact dropWhile_of_solid solidFirst _
    refine (moves_skipSpace solidFirst atFirst).bind ?_
    refine (moves_peek _).bind ?_
    rw [if_neg (by simpa using different), if_neg (by simp)]
    refine (reads _).bind ?_
    obtain ⟨after, others', solidAfter, atAfter⟩ := readsLater.behind_space solid level rest
    have pastComma : ('\n' :: (lines level later ++
        (Value.indent level ++ closing :: rest))).dropWhile isSpace = after :: others' := by
      rw [← atAfter]
      exact List.dropWhile_cons_of_pos (by decide)
    refine (moves_comma solidAfter pastComma).bind ?_
    obtain ⟨fewer, rfl⟩ : ∃ fewer, fuel = fewer + 1 := ⟨fuel - 1, by simp at enough; omega⟩
    refine inductionHypothesis ?_ fewer (by simpa using enough)
    rw [atAfter, dropWhile_of_solid solidAfter]

/-- Items on lines are read together with the closing character. -/
theorem ReadsItems.moves_enclosed (reads : ReadsItems item closing texts start state)
    (solid : IsSolid closing) (cause : Cause) (level : Nat) (enough : texts.length ≤ text.length)
    (behind : text.dropWhile isSpace =
      (lines level texts ++ (Value.indent level ++ closing :: rest)).dropWhile isSpace) :
    Moves (enclosed closing cause item start) text state rest := by
  refine (moves_unread _).bind ?_
  refine (reads.moves_items solid (by omega) level behind).bind ?_
  refine (moves_skipSpace_solid solid rest).bind ?_
  exact (moves_expect closing cause rest).bind (.pure state rest)

/-- A record may be without its name. -/
theorem moves_recordName (name : String) (rest : List Char) :
    Moves (recordName name) ('(' :: rest) () ('(' :: rest) :=
  fun marked => ⟨marked, rfl⟩

variable {α : Type} {fields : List (RecordField σ)} {finish : σ → Except Cause α} {result : α}

/-- Fields in parentheses are read as a record, if they complete it. -/
theorem ReadsItems.moves_parentheses {name : String} {depth : Nat}
    (reads : ReadsItems (field name depth fields) ')' texts start state)
    (complete : finish state = .ok result) (enough : texts.length ≤ text.length) (level : Nat)
    (behind : text.dropWhile isSpace =
      (lines level texts ++ (Value.indent level ++ ')' :: rest)).dropWhile isSpace) :
    Moves (record name depth fields start finish) ('(' :: text) result rest := by
  refine (moves_recordName name _).bind ?_
  refine (moves_skipSpace_solid (by decide) _).bind ?_
  refine (moves_expect _ _ _).bind ?_
  refine (moves_unread _).bind ?_
  refine (reads.moves_items (by decide) (Nat.lt_succ_of_le enough) level behind).bind ?_
  rw [complete]
  refine (moves_skipSpace_solid (by decide) rest).bind ?_
  exact (moves_expect _ _ rest).bind (.pure result rest)

/-- A written record is read, if its fields are and they complete it. -/
theorem ReadsItems.moves_record {name : String} {depth level : Nat}
    {written : List (String × Value)}
    (reads : ReadsItems (field name depth fields) ')' (written.map (fieldText level)) start state)
    (complete : finish state = .ok result) (rest : List Char) :
    Moves (record name depth fields start finish) ((Value.record written).write level ++ rest)
      result rest := by
  have spelled : (Value.record written).write level ++ rest =
      '(' :: '\n' :: (lines level (written.map (fieldText level)) ++
        (Value.indent level ++ ')' :: rest)) := by
    rw [Value.write_record]
    simp
  rw [spelled]
  refine reads.moves_parentheses complete ?_ level (List.dropWhile_cons_of_pos (by decide))
  have fewer := length_le_length_lines level (written.map (fieldText level))
  simp only [List.length_cons, List.length_append]
  omega

end Reader
end QuizFeed.Ron
