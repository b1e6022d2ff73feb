import QuizFeed.Proofs.Files.Pieces

/-!
# The last piece of a path and its parent

A path is followed up to its last piece that is not empty, while its parent lacks the last piece
that leads anywhere. Both agree unless the last piece is `.`, and no parent that has names ends in
`.` (`names_of_parent?_dot`). The parent of a name in a directory may be spelled shorter than the
directory is; the name has the same components in both (`components_parent?_child`).
-/

namespace QuizFeed.Path

variable {path parent : Path} {last : List Char} {name : String}

/-- The last piece of a path that is not empty. -/
def lastPiece? (path : Path) : Option (List Char) :=
  ((pieces path.text.toList).reverse.dropWhile (· == [])).head?

/-- What a path with a last piece is made up of. -/
theorem exists_of_lastPiece? (found : path.lastPiece? = some last) :
    ∃ above trailing, pieces path.text.toList = above ++ last :: trailing ∧ last ≠ [] ∧
      ∀ piece ∈ trailing, piece = [] := by
  have split := List.takeWhile_append_dropWhile (p := (· == []))
    (l := (pieces path.text.toList).reverse)
  have notEmpty := List.head?_dropWhile_not (· == []) (pieces path.text.toList).reverse
  have empty := List.all_takeWhile (p := (· == [])) (l := (pieces path.text.toList).reverse)
  unfold lastPiece? at found
  obtain ⟨above, rest⟩ := List.head?_eq_some_iff.mp found
  rw [rest] at split notEmpty
  have turned := congrArg List.reverse split
  rw [List.reverse_reverse, List.reverse_append, List.reverse_cons, List.append_assoc,
    List.singleton_append] at turned
  refine ⟨above.reverse, _, turned.symm, by simpa using notEmpty, fun piece member => ?_⟩
  exact eq_of_beq (List.all_eq_true.mp empty piece (List.mem_reverse.mp member))

/-- A path without a last piece is made up of slashes. -/
theorem eq_nil_of_lastPiece? (none : path.lastPiece? = none) :
    ∀ piece ∈ pieces path.text.toList, piece = [] := by
  intro piece member
  have split := List.takeWhile_append_dropWhile (p := (· == []))
    (l := (pieces path.text.toList).reverse)
  rw [List.head?_eq_none_iff.mp none, List.append_nil] at split
  rw [← List.mem_reverse, ← split] at member
  exact eq_of_beq (List.all_eq_true.mp List.all_takeWhile piece member)

/-- A path that is made up of slashes starts with one. -/
theorem isAbsolute_of_lastPiece? (none : path.lastPiece? = none) (some : path.text ≠ "") :
    path.isAbsolute = true := by
  have empty := eq_nil_of_lastPiece? none
  unfold isAbsolute
  cases spelled : path.text.toList with
  | nil => exact absurd (String.toList_eq_nil_iff.mp spelled) some
  | cons first rest =>
    rw [spelled] at empty
    by_cases slash : first = '/'
    · rw [slash]
      rfl
    · simp [pieces, slash] at empty

/-- The last piece of a path that ends in a piece is this piece. -/
theorem lastPiece?_of_pieces (above : List (List Char))
    (split : pieces path.text.toList = above ++ [last]) (some : last ≠ []) :
    path.lastPiece? = .some last := by
  unfold lastPiece?
  rw [split, List.reverse_append, List.reverse_singleton, List.singleton_append,
    List.dropWhile_cons_of_neg (by simpa using some), List.head?_cons]

/-- The names of a path with a last piece: those above it, and the piece if it leads anywhere. -/
theorem names_of_split {above trailing : List (List Char)}
    (split : pieces path.text.toList = above ++ last :: trailing)
    (empty : ∀ piece ∈ trailing, piece = []) :
    path.names = above.filter (!isBlankPiece ·) ++ [last].filter (!isBlankPiece ·) := by
  have noTrailing : trailing.filter (!isBlankPiece ·) = [] := by
    rw [List.filter_eq_nil_iff]
    intro piece member
    rw [empty piece member]
    decide
  unfold names
  rw [split, List.filter_append, ← List.singleton_append, List.filter_append, noTrailing,
    List.append_nil]

/-- The names that have to lead to a directory before the last piece of a path can be made one. -/
def upper (path : Path) : List (List Char) :=
  if path.lastPiece? = some ['.'] then path.names else path.names.dropLast

/-- What has to be there before the last piece are the names before it. -/
theorem upper_of_split (isLast : path.lastPiece? = some last) {above trailing : List (List Char)}
    (split : pieces path.text.toList = above ++ last :: trailing) (some : last ≠ [])
    (empty : ∀ piece ∈ trailing, piece = []) :
    path.upper = above.filter (!isBlankPiece ·) := by
  unfold upper
  rw [names_of_split split empty, isLast]
  by_cases dot : last = ['.']
  · rw [if_pos (congrArg _ dot), dot]
    exact List.append_nil _
  · have meaning : isBlankPiece last = false := by simp [isBlankPiece, some, dot]
    rw [if_neg (fun same => dot (Option.some.inj same)),
      List.filter_cons_of_pos (by simp [meaning]), List.filter_nil, List.dropLast_concat]

/-- Pieces that are united again are the text. -/
theorem unite_pieces (text : List Char) : unite (pieces text) = text := by
  induction text with
  | nil => rfl
  | cons character rest inductionHypothesis =>
    obtain ⟨first, others, split⟩ := List.exists_cons_of_ne_nil (pieces_ne_nil rest)
    rw [split] at inductionHypothesis
    simp only [pieces, split]
    by_cases slash : character = '/'
    · rw [if_pos slash, slash]
      exact congrArg ('/' :: ·) inductionHypothesis
    · rw [if_neg slash, ← inductionHypothesis]
      cases others <;> rfl

/-- The first pieces of a text start it. -/
theorem unite_prefix {first second : List (List Char)} (start : first <+: second) :
    unite first <+: unite second := by
  fun_induction unite first generalizing second with
  | case1 => exact List.nil_prefix
  | case2 piece =>
    obtain ⟨rest, rfl⟩ := start
    cases rest with
    | nil => exact List.prefix_refl _
    | cons next others => exact List.prefix_append _ _
  | case3 piece rest notNil inductionHypothesis =>
    obtain ⟨others, rfl, inside⟩ : ∃ others, second = piece :: others ∧ rest <+: others := by
      obtain ⟨more, rfl⟩ := start
      exact ⟨rest ++ more, rfl, List.prefix_append _ _⟩
    have some : others ≠ [] := fun none => notNil (List.prefix_nil.mp (none ▸ inside))
    rw [unite]
    · rw [List.prefix_append_right_inj, List.cons_prefix_cons]
      exact ⟨rfl, inductionHypothesis inside⟩
    · exact some

/-- How a parent is spelled: the head of its path, and some first pieces behind it, the last of
which means something. -/
theorem text_of_parent? (above : path.parent? = some parent) :
    path.names = [] ∧ parent.text = "" ∨
    ∃ final list, path.names = parent.names ++ [final] ∧
      list <+: pieces (headAndBody path.text.toList).2 ∧
      (∀ last ∈ list.getLast?, isBlankPiece last = false) ∧
      parent.text.toList = (headAndBody path.text.toList).1 ++ unite list := by
  unfold parent? at above
  dsimp only at above
  split at above
  case h_1 final others found =>
    cases above
    obtain ⟨trailing, whole, -⟩ := exists_of_reversePieces found
    refine .inr ⟨final, (others.dropWhile isBlankPiece).reverse,
      (names_of_parent path ⟨_⟩ rfl found String.toList_ofList).1, ?_, ?_, String.toList_ofList⟩
    · rw [whole, List.append_assoc]
      exact (List.reverse_prefix.mpr (List.dropWhile_suffix isBlankPiece)).trans
        (List.prefix_append _ _)
    · intro last isLast
      have notBlank := List.head?_dropWhile_not isBlankPiece others
      rw [List.getLast?_reverse] at isLast
      rw [isLast] at notBlank
      simpa using notBlank
  case h_2 none =>
    split at above
    case isFalse => cases above
    case isTrue =>
      cases above
      refine .inl ⟨?_, rfl⟩
      rw [names_eq_body, ← List.reverse_eq_nil_iff, ← List.filter_reverse, ← filter_dropWhile]
      change (reversePieces _).filter _ = _
      rw [none]
      rfl

/-- The text of a parent is the start of the text of its path. -/
theorem text_prefix_of_parent? (above : path.parent? = some parent) :
    parent.text.toList <+: path.text.toList := by
  rcases text_of_parent? above with ⟨-, empty⟩ | ⟨final, list, -, start, -, spelled⟩
  · rw [empty]
    exact List.nil_prefix
  · rw [spelled]
    conv => rhs; rw [← headAndBody_append path.text.toList]
    rw [List.prefix_append_right_inj, ← unite_pieces (headAndBody path.text.toList).2]
    exact unite_prefix start

/-- A path without a parent has no names. -/
theorem names_of_parent?_none (none : path.parent? = none) : path.names = [] := by
  unfold parent? at none
  dsimp only at none
  split at none
  case h_1 => cases none
  case h_2 found =>
    rw [names_eq_body, ← List.reverse_eq_nil_iff, ← List.filter_reverse, ← filter_dropWhile]
    change (reversePieces _).filter _ = _
    rw [found]
    rfl

/-- What comes before the last piece of a path is what comes before the last piece of its parent and
that piece, and for a path that ends in `.` the last name of the path. -/
theorem prefix_upper {final : List Char} {front : List (List Char)}
    (names : path.names = parent.names ++ [final]) (inside : front <+: path.upper) :
    front <+: parent.names ∨ path.lastPiece? = some ['.'] ∧ front = path.names := by
  unfold upper at inside
  split at inside
  case isTrue dot =>
    rw [names] at inside ⊢
    exact (List.prefix_concat_iff.mp inside).symm.imp_right fun same => ⟨dot, same⟩
  case isFalse =>
    rw [names, List.dropLast_concat] at inside
    exact .inl inside

/-- A path with names before its last piece has a parent. -/
theorem exists_of_upper (some : path.upper ≠ []) :
    ∃ parent final, path.parent? = .some parent ∧ path.names = parent.names ++ [final] := by
  have named : path.names ≠ [] := by
    intro none
    refine some ?_
    unfold upper
    rw [none]
    split <;> rfl
  cases above : path.parent? with
  | none => exact absurd (names_of_parent?_none above) named
  | some parent =>
    rcases text_of_parent? above with ⟨none, -⟩ | ⟨final, -, names, -⟩
    · exact absurd none named
    · exact ⟨parent, final, rfl, names⟩

/-- The head of a text is a slash if the text starts with one. -/
theorem head_eq_slash_iff {text : List Char} :
    (headAndBody text).1 = ['/'] ↔ text.head? = some '/' := by
  fun_cases headAndBody text with
  | case1 | case2 | case3 => simp
  | case4 =>
    rename_i noSlash _ _
    refine iff_of_false (List.cons_ne_nil _ _).symm fun slash => ?_
    obtain ⟨rest, spelled⟩ := List.head?_eq_some_iff.mp slash
    exact noSlash rest spelled

/-- The head of a text is a dot if this is all of it, or a slash comes next. -/
theorem head_eq_dot_iff {text : List Char} :
    (headAndBody text).1 = ['.'] ↔ text = ['.'] ∨ ∃ rest, text = '.' :: '/' :: rest := by
  fun_cases headAndBody text with
  | case1 | case2 | case3 => simp
  | case4 =>
    rename_i notDot notDotted
    refine iff_of_false (List.cons_ne_nil _ _).symm ?_
    rintro (dot | ⟨rest, dotted⟩)
    · exact notDot dot
    · exact notDotted rest dotted

/-- Paths with the same names and the same start have the same components. -/
theorem components_congr {other : Path} (names : path.names = other.names)
    (slash : path.text.toList.head? = some '/' ↔ other.text.toList.head? = some '/')
    (dot : (headAndBody path.text.toList).1 = ['.'] ↔
      (headAndBody other.text.toList).1 = ['.']) :
    path.components = other.components := by
  have kinds (text : List Char) : (headAndBody text).1 = ['/'] ∨ (headAndBody text).1 = ['.'] ∨
      (headAndBody text).1 = [] := by
    fun_cases headAndBody text with
    | case1 => exact .inl rfl
    | case2 | case3 => exact .inr (.inl rfl)
    | case4 => exact .inr (.inr rfl)
  have heads : (headAndBody path.text.toList).1 = (headAndBody other.text.toList).1 := by
    rw [← head_eq_slash_iff, ← head_eq_slash_iff] at slash
    rcases kinds path.text.toList with isSlash | isDot | none
    · rw [isSlash, slash.mp isSlash]
    · rw [isDot, dot.mp isDot]
    · rcases kinds other.text.toList with isSlash | isDot | noneOther
      · rw [isSlash, slash.mpr isSlash]
      · rw [isDot, dot.mpr isDot]
      · rw [none, noneOther]
  rw [names_eq_body, names_eq_body] at names
  unfold components
  dsimp only
  rw [heads, names]

/-- The last of some first pieces is the last piece of the path that they are put together to. -/
theorem lastPiece?_of_text {text : List Char} {front : List (List Char)}
    (start : front ++ [last] <+: pieces (headAndBody text).2) (some : last ≠ [])
    (spelled : parent.text.toList = (headAndBody text).1 ++ unite (front ++ [last])) :
    parent.lastPiece? = .some last := by
  have apart : ∀ piece ∈ front ++ [last], '/' ∉ piece :=
    fun piece member => slash_notMem_of_mem_pieces (start.subset member)
  have alone : pieces (unite (front ++ [last])) = front ++ [last] :=
    pieces_unite (by simp) apart
  revert start spelled
  fun_cases headAndBody text with
  | case1 rest =>
    intro _ spelled
    have split := pieces_append_slash [] (unite (front ++ [last]))
    rw [alone] at split
    exact lastPiece?_of_pieces ([] :: front) (by rw [spelled]; exact split) some
  | case2 =>
    intro start _
    cases front with
    | nil =>
      obtain ⟨rest, whole⟩ := start
      exact absurd (List.cons.inj whole).1 some
    | cons first others =>
      have fewer := start.length_le
      simp [pieces] at fewer
  | case3 rest =>
    intro start spelled
    cases front with
    | nil =>
      obtain ⟨more, whole⟩ := start
      exact absurd (List.cons.inj whole).1 some
    | cons first others =>
      -- The body starts with a slash, so its first piece is empty.
      obtain ⟨more, whole⟩ := start
      obtain rfl : first = [] := (List.cons.inj whole).1
      have alone : pieces (unite (others ++ [last])) = others ++ [last] :=
        pieces_unite (by simp) (List.forall_mem_cons.mp apart).2
      have split := pieces_append_slash ['.'] (unite (others ++ [last]))
      rw [alone] at split
      have joined : unite ([] :: others ++ [last]) = '/' :: unite (others ++ [last]) := by
        cases others <;> rfl
      refine lastPiece?_of_pieces (['.'] :: others) ?_ some
      rw [spelled, joined]
      exact split
  | case4 =>
    intro _ spelled
    exact lastPiece?_of_pieces front (by rw [spelled]; exact alone) some

/-- A parent that is just `.` is that of a path that starts with `.`. -/
theorem head_of_text_dot {list : List (List Char)}
    (start : list <+: pieces (headAndBody path.text.toList).2)
    (meaning : ∀ last ∈ list.getLast?, isBlankPiece last = false)
    (spelled : ['.'] = (headAndBody path.text.toList).1 ++ unite list) :
    (headAndBody path.text.toList).1 = ['.'] := by
  cases head : (headAndBody path.text.toList).1 with
  | cons first others =>
    rw [head] at spelled
    obtain ⟨rfl, rest⟩ := List.cons.inj spelled
    rw [(List.append_eq_nil_iff.mp rest.symm).1]
  | nil =>
    rw [head, List.nil_append] at spelled
    have some : list ≠ [] := by
      rintro rfl
      cases spelled
    have split := pieces_unite some fun piece member =>
      slash_notMem_of_mem_pieces (start.subset member)
    rw [← spelled] at split
    rw [← split] at meaning
    exact absurd (meaning ['.'] rfl) (by decide)

/-- A name in a directory starts with `.` as the directory does. -/
theorem head_child (directory : Path) (single : IsSingle name) (some : directory.text ≠ "") :
    (headAndBody (directory.child name).text.toList).1 = ['.'] ↔
      (headAndBody directory.text.toList).1 = ['.'] := by
  rw [head_eq_dot_iff, head_eq_dot_iff]
  rcases text_child directory single with ⟨empty, -⟩ | ⟨-, above, text, spelled⟩
  · exact absurd empty some
  rw [text]
  rcases spelled with spelled | spelled <;> rw [spelled]
  · rcases above with - | ⟨first, - | ⟨second, rest⟩⟩
    · exact absurd (String.toList_eq_nil_iff.mp spelled) some
    · simp
    · simp
  · rcases above with - | ⟨first, - | ⟨second, rest⟩⟩ <;> simp

/-- The parent of a path with names starts with `.` as the path does, unless it is empty. -/
theorem head_of_parent? (above : path.parent? = some parent) (named : path.names ≠ []) :
    (headAndBody parent.text.toList).1 = ['.'] ↔ (headAndBody path.text.toList).1 = ['.'] := by
  rcases text_of_parent? above with ⟨none, -⟩ | ⟨final, list, -, inside, meaning, spelled⟩
  · exact absurd none named
  constructor
  · intro head
    rcases head_eq_dot_iff.mp head with dot | ⟨rest, dotted⟩
    · rw [dot] at spelled
      exact head_of_text_dot inside meaning spelled
    · obtain ⟨more, whole⟩ := text_prefix_of_parent? above
      rw [dotted] at whole
      exact head_eq_dot_iff.mpr (.inr ⟨rest ++ more, whole.symm⟩)
  · intro head
    rcases head_eq_dot_iff.mp head with dot | ⟨rest, dotted⟩
    · refine absurd ?_ named
      unfold names
      rw [dot]
      rfl
    · -- The body starts with a slash, so its first piece is empty.
      rw [dotted] at inside spelled
      refine head_eq_dot_iff.mpr ?_
      rw [spelled]
      rcases list with - | ⟨first, - | ⟨second, others⟩⟩
      · exact .inl rfl
      · obtain rfl : first = [] := (List.cons_prefix_cons.mp inside).1
        exact .inl rfl
      · obtain rfl : first = [] := (List.cons_prefix_cons.mp inside).1
        exact .inr ⟨_, rfl⟩

/-- A name in the parent of its path has the components of the path. -/
theorem components_parent?_child (directory : Path) (single : IsSingle name)
    (above : (directory.child name).parent? = some parent) :
    (parent.child name).components = (directory.child name).components := by
  obtain ⟨sameNames, sameStart⟩ := names_parent?_child directory single above
  have named : (directory.child name).names ≠ [] := by
    rw [names_child _ single]
    exact List.concat_ne_nil _ _
  have start : (parent.child name).isAbsolute = (directory.child name).isAbsolute := by
    rw [isAbsolute_child _ single, isAbsolute_child _ single, sameStart]
  unfold isAbsolute at start
  rw [Bool.eq_iff_iff, beq_iff_eq, beq_iff_eq] at start
  refine components_congr ?_ start ?_
  · rw [names_child _ single, names_child _ single, sameNames]
  by_cases empty : parent.text = ""
  · have same : (parent.child name).text = name := by
      rcases text_child parent single with ⟨-, same⟩ | ⟨some, -⟩
      · exact same
      · exact absurd empty some
    rw [same, ← head_of_parent? above named, empty]
    refine iff_of_false (fun dotted => ?_) nofun
    rcases head_eq_dot_iff.mp dotted with dot | ⟨rest, slashed⟩
    · have notBlank := single.notBlank
      rw [dot] at notBlank
      cases notBlank
    · have noSlash := single.noSlash
      rw [slashed] at noSlash
      simp at noSlash
  · exact (head_child parent single empty).trans (head_of_parent? above named)

/-- The last component of a name in a directory is the name. -/
theorem getLast?_components_child (directory : Path) (single : IsSingle name) :
    (directory.child name).components.getLast? = some (.name name) := by
  have names := names_child directory single
  rw [names_eq_body] at names
  unfold components
  dsimp only
  rw [names, List.map_append, ← List.append_assoc, List.map_singleton, List.getLast?_concat,
    component, if_neg single.notParent, String.ofList_toList]

/-- A parent that ends in `.` has no names. -/
theorem names_of_parent?_dot (above : path.parent? = some parent)
    (dot : parent.lastPiece? = some ['.']) : parent.names = [] := by
  rcases text_of_parent? above with ⟨-, empty⟩ | ⟨final, list, -, start, notBlank, spelled⟩
  · unfold names
    rw [empty]
    rfl
  · rcases List.eq_nil_or_concat list with rfl | ⟨front, last, rfl⟩
    · exact (names_of_text start spelled).1
    · rw [List.concat_eq_append] at start notBlank spelled
      have meaning := notBlank last (by simp)
      have some : last ≠ [] := by
        rintro rfl
        cases meaning
      have ends := lastPiece?_of_text start some spelled
      rw [dot] at ends
      cases ends
      cases meaning

end QuizFeed.Path
