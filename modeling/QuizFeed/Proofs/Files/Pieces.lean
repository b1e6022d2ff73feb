import QuizFeed.Path

/-!
# Pieces of paths

How the pieces of a path are made up of those of the paths that it is put together from: a name in
a directory adds one piece (`exists_pieces_child`), and the parent of a path lacks the last name
(`names_of_parent`).
-/

namespace QuizFeed.Path

/-- A piece has no slash in it. -/
theorem slash_notMem_of_mem_pieces {text piece : List Char} (member : piece ∈ pieces text) :
    '/' ∉ piece := by
  induction text generalizing piece with
  | nil =>
    rw [List.mem_singleton.mp member]
    exact List.not_mem_nil
  | cons character rest inductionHypothesis =>
    obtain ⟨first, others, split⟩ := List.exists_cons_of_ne_nil (pieces_ne_nil rest)
    rw [split] at inductionHypothesis
    simp only [pieces, split] at member
    by_cases slash : character = '/'
    · rw [if_pos slash] at member
      rcases List.mem_cons.mp member with rfl | later
      · exact List.not_mem_nil
      · exact inductionHypothesis later
    · rw [if_neg slash] at member
      rcases List.mem_cons.mp member with rfl | later
      · rw [List.mem_cons, not_or]
        exact ⟨Ne.symm slash, inductionHypothesis (List.mem_cons_self ..)⟩
      · exact inductionHypothesis (List.mem_cons_of_mem _ later)

/-- A text without a slash is one piece. -/
theorem pieces_of_slash_notMem {text : List Char} (none : '/' ∉ text) : pieces text = [text] := by
  induction text with
  | nil => rfl
  | cons character rest inductionHypothesis =>
    rw [List.mem_cons, not_or] at none
    simp only [pieces, inductionHypothesis none.2, if_neg (Ne.symm none.1)]
    rfl

/-- A slash separates the pieces before it from those behind it. -/
theorem pieces_append_slash (first second : List Char) :
    pieces (first ++ '/' :: second) = pieces first ++ pieces second := by
  induction first with
  | nil => rfl
  | cons character rest inductionHypothesis =>
    obtain ⟨piece, others, split⟩ := List.exists_cons_of_ne_nil (pieces_ne_nil rest)
    simp only [List.cons_append, pieces, inductionHypothesis, split]
    by_cases slash : character = '/'
    · simp only [if_pos slash, List.cons_append]
    · simp only [if_neg slash, List.cons_append, List.headD_cons, List.tail_cons]

/-- Each slash before a text adds an empty piece. -/
theorem pieces_slashes (count : Nat) (text : List Char) :
    pieces (List.replicate count '/' ++ text) = List.replicate count [] ++ pieces text := by
  induction count with
  | zero => rfl
  | succ count inductionHypothesis =>
    rw [List.replicate_succ, List.replicate_succ, List.cons_append, List.cons_append,
      ← inductionHypothesis]
    rfl

/-- A character other than a slash stands in a piece. -/
theorem mem_iff_mem_pieces {text : List Char} {character : Char} (notSlash : character ≠ '/') :
    character ∈ text ↔ ∃ piece ∈ pieces text, character ∈ piece := by
  induction text with
  | nil => simp [pieces]
  | cons first rest inductionHypothesis =>
    obtain ⟨piece, others, split⟩ := List.exists_cons_of_ne_nil (pieces_ne_nil rest)
    rw [split] at inductionHypothesis
    simp only [pieces, split]
    by_cases slash : first = '/'
    · simpa [slash, notSlash] using inductionHypothesis
    · simpa [slash, or_assoc] using or_congr_right inductionHypothesis

/-- Pieces that are united are split into the same pieces again. -/
theorem pieces_unite {list : List (List Char)} (some : list ≠ [])
    (apart : ∀ piece ∈ list, '/' ∉ piece) : pieces (unite list) = list := by
  fun_induction unite list with
  | case1 => exact absurd rfl some
  | case2 piece => exact pieces_of_slash_notMem (apart piece (List.mem_cons_self ..))
  | case3 piece rest notNil inductionHypothesis =>
    obtain ⟨first, others⟩ := List.forall_mem_cons.mp apart
    rw [pieces_append_slash, pieces_of_slash_notMem first, inductionHypothesis notNil others]
    rfl

/-- Whether a text is one name that leads somewhere of its own. -/
structure IsSingle (name : String) : Prop where
  noSlash : '/' ∉ name.toList
  notBlank : isBlankPiece name.toList = false
  notParent : name.toList ≠ ['.', '.']

instance (name : String) : Decidable (IsSingle name) :=
  decidable_of_iff
    ('/' ∉ name.toList ∧ isBlankPiece name.toList = false ∧ name.toList ≠ ['.', '.'])
    ⟨fun ⟨noSlash, notBlank, notParent⟩ => ⟨noSlash, notBlank, notParent⟩,
      fun ⟨noSlash, notBlank, notParent⟩ => ⟨noSlash, notBlank, notParent⟩⟩

variable {name : String} {path parent : Path}

/-- A single name is not empty. -/
theorem IsSingle.ne_nil (single : IsSingle name) : name.toList ≠ [] := by
  intro empty
  have notBlank := single.notBlank
  rw [empty] at notBlank
  cases notBlank

/-- A single name does not start with a slash. -/
theorem IsSingle.head?_ne_slash (single : IsSingle name) : name.toList.head? ≠ some '/' :=
  fun slash => single.noSlash (List.mem_of_head? slash)

/-- The text of a name in a directory. -/
theorem text_child (directory : Path) (single : IsSingle name) :
    directory.text = "" ∧ (directory.child name).text = name ∨
    directory.text ≠ "" ∧ ∃ above, (directory.child name).text.toList =
        above ++ '/' :: name.toList ∧
      (directory.text.toList = above ∨ directory.text.toList = above ++ ['/']) := by
  have relative : (Path.mk name).isAbsolute = false := by
    simpa [isAbsolute] using single.head?_ne_slash
  unfold child join
  by_cases empty : directory.text = ""
  · exact .inl ⟨empty, by rw [if_pos (.inr empty)]⟩
  · refine .inr ⟨empty, ?_⟩
    rw [if_neg (by simp [relative, empty])]
    by_cases slashed : directory.text.toList.getLast? = some '/'
    · obtain ⟨above, spelled⟩ := List.getLast?_eq_some_iff.mp slashed
      refine ⟨above, ?_, .inr spelled⟩
      rw [if_pos slashed]
      simp [spelled]
    · refine ⟨directory.text.toList, ?_, .inl rfl⟩
      rw [if_neg slashed]
      simp

/-- The text of a directory is the start of the text of a name in it. -/
theorem text_prefix_child (directory : Path) (single : IsSingle name) :
    directory.text.toList <+: (directory.child name).text.toList := by
  rcases text_child directory single with ⟨empty, -⟩ | ⟨-, above, text, spelled⟩
  · rw [empty]
    exact List.nil_prefix
  · rw [text]
    rcases spelled with spelled | spelled <;> rw [spelled]
    · exact List.prefix_append _ _
    · exact ⟨name.toList, by simp⟩

/-- A path is no shorter than one that starts it. -/
theorem utf8ByteSize_le_of_prefix {whole : Path} (start : path.text.toList <+: whole.text.toList) :
    path.text.utf8ByteSize ≤ whole.text.utf8ByteSize := by
  obtain ⟨rest, spelled⟩ := start
  have text : whole.text = path.text ++ String.ofList rest := by
    rw [← String.toList_inj, String.toList_append, String.toList_ofList, spelled]
  rw [text, String.utf8ByteSize_append]
  exact Nat.le_add_right _ _

/-- A path with a name behind it is not empty. -/
theorem text_child_ne_empty (directory : Path) (single : IsSingle name) :
    (directory.child name).text ≠ "" := by
  intro empty
  have lists := congrArg String.toList empty
  rcases text_child directory single with ⟨_, text⟩ | ⟨_, above, text, _⟩
  · rw [text] at lists
    exact single.ne_nil lists
  · rw [text] at lists
    simp at lists

/-- A name in a directory adds one piece to those of the directory, behind which a last slash
counts for nothing. -/
theorem exists_pieces_child (directory : Path) (single : IsSingle name) :
    ∃ above, pieces (directory.child name).text.toList = above ++ [name.toList] ∧
      (directory.text = "" ∧ above = [] ∨
        directory.text ≠ "" ∧ (pieces directory.text.toList = above ∨
          pieces directory.text.toList = above ++ [[]])) := by
  have alone := pieces_of_slash_notMem single.noSlash
  rcases text_child directory single with ⟨empty, text⟩ | ⟨some, above, text, spelled⟩
  · exact ⟨[], by rw [text, alone]; rfl, .inl ⟨empty, rfl⟩⟩
  · refine ⟨pieces above, by rw [text, pieces_append_slash, alone], .inr ⟨some, ?_⟩⟩
    rcases spelled with spelled | spelled
    · exact .inl (by rw [spelled])
    · exact .inr (by rw [spelled, pieces_append_slash]; rfl)

/-- A path with a name behind it is absolute if the path is. -/
theorem isAbsolute_child (directory : Path) (single : IsSingle name) :
    (directory.child name).isAbsolute = directory.isAbsolute := by
  unfold isAbsolute
  rcases text_child directory single with ⟨empty, text⟩ | ⟨some, above, text, spelled⟩
  · rw [text, empty]
    simpa using single.head?_ne_slash
  · rw [text]
    cases above with
    | nil =>
      rcases spelled with spelled | spelled
      · exact absurd (String.toList_inj.mp spelled) some
      · rw [spelled]
        rfl
    | cons first rest =>
      rcases spelled with spelled | spelled <;> rw [spelled] <;> rfl

/-- The pieces of a path that lead anywhere. -/
def names (path : Path) : List (List Char) :=
  (pieces path.text.toList).filter (!isBlankPiece ·)

/-- A character that is neither a slash nor a dot stands in a name. -/
theorem mem_text_iff {character : Char} (path : Path) (notSlash : character ≠ '/')
    (notDot : character ≠ '.') :
    character ∈ path.text.toList ↔ ∃ piece ∈ path.names, character ∈ piece := by
  rw [mem_iff_mem_pieces notSlash]
  unfold names
  refine exists_congr fun piece => ?_
  rw [List.mem_filter, and_assoc]
  refine and_congr_right fun _ => ⟨fun inside => ⟨?_, inside⟩, And.right⟩
  rw [Bool.not_eq_true', Bool.eq_false_iff]
  intro blank
  simp only [isBlankPiece, Bool.or_eq_true, beq_iff_eq] at blank
  rcases blank with rfl | rfl
  · exact List.not_mem_nil inside
  · exact notDot (List.mem_singleton.mp inside)

/-- A name behind a path is one more name. -/
theorem names_child (directory : Path) (single : IsSingle name) :
    (directory.child name).names = directory.names ++ [name.toList] := by
  obtain ⟨above, split, whole⟩ := exists_pieces_child directory single
  unfold names
  rw [split, List.filter_append]
  have kept : [name.toList].filter (!isBlankPiece ·) = [name.toList] := by
    rw [List.filter_cons_of_pos (by simp [single.notBlank]), List.filter_nil]
  rw [kept]
  rcases whole with ⟨empty, rfl⟩ | ⟨_, whole | whole⟩
  · rw [empty]
    rfl
  · rw [whole]
  · rw [whole, List.filter_append]
    simp [isBlankPiece]

/-- What is dropped at the start would have been filtered out. -/
theorem filter_dropWhile (keep : List Char → Bool) (list : List (List Char)) :
    (list.dropWhile keep).filter (!keep ·) = list.filter (!keep ·) := by
  induction list with
  | nil => rfl
  | cons piece rest inductionHypothesis =>
    by_cases blank : keep piece
    · rw [List.dropWhile_cons_of_pos blank, inductionHypothesis,
        List.filter_cons_of_neg (by simp [blank])]
    · rw [List.dropWhile_cons_of_neg blank]

/-- The head of a path adds nothing to its names. -/
theorem names_eq_body (path : Path) :
    path.names = (pieces (headAndBody path.text.toList).2).filter (!isBlankPiece ·) := by
  unfold names
  generalize path.text.toList = text
  fun_cases headAndBody text with
  | case1 rest => rfl
  | case2 => rfl
  | case3 rest =>
    have behind := pieces_append_slash ['.'] rest
    rw [List.singleton_append] at behind
    rw [behind]
    rfl
  | case4 => rfl

/-- What a path that ends in a name or in `..` is made up of: its head, the pieces above the last
one that means something, that piece, and pieces behind it that mean nothing. -/
theorem exists_of_reversePieces {body final : List Char} {others : List (List Char)}
    (found : reversePieces body = final :: others) :
    ∃ trailing, pieces body = others.reverse ++ [final] ++ trailing ∧
      isBlankPiece final = false ∧ '/' ∉ final ∧ ∀ piece ∈ trailing, isBlankPiece piece = true := by
  unfold reversePieces at found
  have whole : pieces body = others.reverse ++ [final] ++
      ((pieces body).reverse.takeWhile isBlankPiece).reverse := by
    have split := List.takeWhile_append_dropWhile (p := isBlankPiece) (l := (pieces body).reverse)
    rw [found] at split
    have turned := congrArg List.reverse split
    rw [List.reverse_reverse, List.reverse_append, List.reverse_cons] at turned
    exact turned.symm
  have notBlank : isBlankPiece final = false := by
    have first := List.head?_dropWhile_not isBlankPiece (pieces body).reverse
    simpa [found] using first
  have member : final ∈ pieces body := by
    rw [whole]
    simp
  refine ⟨_, whole, notBlank, slash_notMem_of_mem_pieces member, fun piece inside => ?_⟩
  exact List.all_eq_true.mp List.all_takeWhile piece (List.mem_reverse.mp inside)

/-- Pieces that are united have the same names. -/
theorem filter_pieces_unite {list : List (List Char)} (apart : ∀ piece ∈ list, '/' ∉ piece) :
    (pieces (unite list)).filter (!isBlankPiece ·) = list.filter (!isBlankPiece ·) := by
  by_cases none : list = []
  · rw [none]
    rfl
  · rw [pieces_unite none apart]

/-- A first piece `.` means nothing. -/
theorem filter_pieces_unite_dot {list : List (List Char)} (apart : ∀ piece ∈ list, '/' ∉ piece) :
    (pieces (unite (['.'] :: list))).filter (!isBlankPiece ·) = list.filter (!isBlankPiece ·) := by
  have apartDot : ∀ piece ∈ ['.'] :: list, '/' ∉ piece :=
    List.forall_mem_cons.mpr ⟨by decide, apart⟩
  rw [filter_pieces_unite apartDot]
  rfl

/-- Some first pieces of a text put together start with a slash only where the text does. -/
theorem head?_unite_ne_slash {text : List Char} {list : List (List Char)}
    (start : list <+: pieces text) (relative : text.head? ≠ some '/') :
    (unite list).head? ≠ some '/' := by
  cases text with
  | nil =>
    rcases List.prefix_cons_iff.mp start with rfl | ⟨others, rfl, rest⟩
    · exact nofun
    · rw [List.prefix_nil.mp rest]
      exact nofun
  | cons character rest =>
    have noSlash : character ≠ '/' := fun slash => relative (congrArg some slash)
    simp only [pieces, if_neg noSlash] at start
    rcases List.prefix_cons_iff.mp start with rfl | ⟨others, rfl, -⟩
    · exact nofun
    · cases others <;> simpa [unite] using noSlash

/-- The names and the start of a path whose text is the head of another and some first pieces of
its body. -/
theorem names_of_text {text : List Char} {list : List (List Char)}
    (start : list <+: pieces (headAndBody text).2)
    (spelled : parent.text.toList = (headAndBody text).1 ++ unite list) :
    parent.names = list.filter (!isBlankPiece ·) ∧
      (parent.text.toList.head? = some '/' ↔ text.head? = some '/') := by
  have apart : ∀ piece ∈ list, '/' ∉ piece :=
    fun piece member => slash_notMem_of_mem_pieces (start.subset member)
  unfold names
  rw [spelled]
  revert start
  fun_cases headAndBody text with
  | case1 rest => exact fun _ => ⟨filter_pieces_unite apart, by simp⟩
  | case2 =>
    intro start
    refine ⟨?_, by simp⟩
    rcases List.prefix_cons_iff.mp start with rfl | ⟨others, rfl, rest⟩
    · rfl
    · rw [List.prefix_nil.mp rest]
      rfl
  | case3 rest =>
    intro start
    refine ⟨?_, by simp⟩
    rcases List.prefix_cons_iff.mp start with rfl | ⟨others, rfl, -⟩
    · rfl
    · -- The body starts with a slash, so its first piece is empty and `.` takes its place.
      have apartRest := (List.forall_mem_cons.mp apart).2
      cases others with
      | nil => rfl
      | cons second further => exact filter_pieces_unite_dot apartRest
  | case4 =>
    rename_i noSlash _ _
    intro start
    have relative : text.head? ≠ some '/' := by
      intro slash
      obtain ⟨rest, spelled⟩ := List.head?_eq_some_iff.mp slash
      exact noSlash rest spelled
    exact ⟨filter_pieces_unite apart, iff_of_false (head?_unite_ne_slash start relative) relative⟩

/-- The names of a path are those of its parent, and the last one behind them. -/
theorem names_of_parent (path parent : Path) {body final : List Char} {others : List (List Char)}
    (isBody : (headAndBody path.text.toList).2 = body)
    (found : reversePieces body = final :: others)
    (text : parent.text.toList = (headAndBody path.text.toList).1 ++
      unite (others.dropWhile isBlankPiece).reverse) :
    path.names = parent.names ++ [final] ∧ parent.isAbsolute = path.isAbsolute := by
  obtain ⟨trailing, whole, notBlank, noSlash, blank⟩ := exists_of_reversePieces found
  have noTrailing : trailing.filter (!isBlankPiece ·) = [] := by
    rw [List.filter_eq_nil_iff]
    intro piece member
    simp [blank piece member]
  have pathNames : path.names = others.reverse.filter (!isBlankPiece ·) ++ [final] := by
    rw [names_eq_body, isBody, whole, List.filter_append, List.filter_append, noTrailing,
      List.append_nil, List.filter_cons_of_pos (by simp [notBlank]), List.filter_nil]
  have start : (others.dropWhile isBlankPiece).reverse <+:
      pieces (headAndBody path.text.toList).2 := by
    have inside : (others.dropWhile isBlankPiece).reverse <+: others.reverse :=
      List.reverse_prefix.mpr (List.dropWhile_suffix isBlankPiece)
    rw [isBody, whole, List.append_assoc]
    exact inside.trans (List.prefix_append _ _)
  obtain ⟨parentNames, sameStart⟩ := names_of_text start text
  constructor
  · rw [pathNames, parentNames, List.filter_reverse, List.filter_reverse, filter_dropWhile]
  · unfold isAbsolute
    rw [Bool.eq_iff_iff, beq_iff_eq, beq_iff_eq]
    exact sameStart

/-- The parent of a path starts where the path does and has some first names of it. -/
theorem names_prefix_of_parent? (above : path.parent? = some parent) :
    parent.names <+: path.names ∧ parent.isAbsolute = path.isAbsolute := by
  unfold parent? at above
  dsimp only at above
  split at above
  case h_1 final others found =>
    cases above
    obtain ⟨names, start⟩ := names_of_parent path ⟨_⟩ rfl found String.toList_ofList
    refine ⟨?_, start⟩
    rw [names]
    exact List.prefix_append _ _
  case h_2 =>
    split at above
    case isTrue dot =>
      cases above
      refine ⟨List.nil_prefix, ?_⟩
      have whole := headAndBody_append path.text.toList
      rw [dot] at whole
      unfold isAbsolute
      rw [← whole]
      rfl
    case isFalse => cases above

/-- The last name of a path is a single one. -/
theorem isSingle_of_fileName? (last : path.fileName? = some name) : IsSingle name := by
  unfold fileName? at last
  split at last
  case h_2 => cases last
  case h_1 final others found =>
    split at last
    case isTrue => cases last
    case isFalse notParent =>
      cases last
      obtain ⟨_, _, notBlank, noSlash, _⟩ := exists_of_reversePieces found
      refine ⟨?_, ?_, ?_⟩ <;> rwa [String.toList_ofList]

/-- A path with a last name has a parent. -/
theorem exists_parent?_of_fileName? (last : path.fileName? = some name) :
    ∃ parent, path.parent? = some parent := by
  unfold fileName? at last
  unfold parent?
  split at last
  case h_2 => cases last
  case h_1 final others found =>
    dsimp only
    rw [found]
    exact ⟨_, rfl⟩

/-- A path that ends in a name leads where that name leads from its parent. -/
theorem names_of_fileName? (above : path.parent? = some parent)
    (last : path.fileName? = some name) :
    path.names = parent.names ++ [name.toList] ∧ parent.isAbsolute = path.isAbsolute := by
  unfold parent? at above
  unfold fileName? at last
  dsimp only at above
  split at last
  case h_2 => cases last
  case h_1 final others found =>
    split at last
    case isTrue => cases last
    case isFalse =>
      cases last
      rw [found] at above
      cases above
      rw [String.toList_ofList]
      exact names_of_parent path ⟨_⟩ rfl found String.toList_ofList

/-- A name in a directory is the last name of the path, and the path has a parent. -/
theorem fileName?_child (directory : Path) (single : IsSingle name) :
    (directory.child name).fileName? = some name ∧
      ∃ parent, (directory.child name).parent? = some parent := by
  have split := names_child directory single
  rw [names_eq_body] at split
  have turned := congrArg List.reverse split
  rw [← List.filter_reverse, ← filter_dropWhile, List.reverse_append, List.reverse_singleton,
    List.singleton_append] at turned
  change (reversePieces _).filter _ = _ at turned
  unfold fileName? parent?
  dsimp only
  cases found : reversePieces (headAndBody (directory.child name).text.toList).2 with
  | nil =>
    rw [found] at turned
    cases turned
  | cons final others =>
    obtain ⟨_, _, notBlank, _⟩ := exists_of_reversePieces found
    rw [found, List.filter_cons_of_pos (by simp [notBlank])] at turned
    obtain rfl := (List.cons.inj turned).1
    dsimp only
    rw [if_neg single.notParent, String.ofList_toList]
    exact ⟨rfl, _, rfl⟩

/-- The parent of a name in a directory is spelled like the directory, but for pieces that mean
nothing. -/
theorem names_parent?_child (directory : Path) (single : IsSingle name)
    (above : (directory.child name).parent? = some parent) :
    parent.names = directory.names ∧ parent.isAbsolute = directory.isAbsolute := by
  obtain ⟨names, start⟩ := names_of_fileName? above (fileName?_child directory single).1
  rw [names_child directory single] at names
  rw [isAbsolute_child directory single] at start
  exact ⟨(List.append_cancel_right names).symm, start⟩

end QuizFeed.Path
