import QuizFeed.Text.Quoted

/-!
# Paths

A path is a text in which slashes separate names. Repeated slashes and `.` mean nothing, except
that a path may start with a slash or with `.`; this start is its head. `parent?` and `fileName?`
split off the last name and keep the rest of the text as it is written. Paths whose bytes are no
text in UTF-8 are left out.
-/

namespace QuizFeed

/-- A path that is text, as it is written. -/
@[ext] structure Path where
  text : String
  deriving DecidableEq, Repr, Inhabited

namespace Path

/-- What the parts of a path mean. -/
inductive Component where
  | root
  | current
  | parent
  | name (text : String)
  deriving DecidableEq, Repr

/-- Splits at every slash; there is always at least one piece. -/
def pieces : List Char → List (List Char)
  | [] => [[]]
  | character :: rest =>
    let others := pieces rest
    if character = '/' then [] :: others
    else (character :: others.headD []) :: others.tail

/-- Puts pieces together again, with a slash between each two. -/
def unite : List (List Char) → List Char
  | [] => []
  | [piece] => piece
  | piece :: rest => piece ++ '/' :: unite rest

/-- Whether a piece means nothing behind the head of a path. -/
def isBlankPiece (piece : List Char) : Bool :=
  piece == [] || piece == ['.']

/-- The start of a path that has a meaning of its own, and the text behind it. -/
def headAndBody : List Char → List Char × List Char
  | '/' :: rest => (['/'], rest)
  | ['.'] => (['.'], [])
  | '.' :: '/' :: rest => (['.'], '/' :: rest)
  | text => ([], text)

/-- The component that a piece stands for. -/
def component (piece : List Char) : Component :=
  if piece = ['.', '.'] then .parent else .name (String.ofList piece)

/-- The components of a path. -/
def components (path : Path) : List Component :=
  let (head, body) := headAndBody path.text.toList
  let start := match head with
    | ['/'] => [Component.root]
    | ['.'] => [Component.current]
    | _ => []
  start ++ ((pieces body).filter (!isBlankPiece ·)).map component

/-- The pieces of a path behind its head, in reverse, from the last one that means something. -/
def reversePieces (body : List Char) : List (List Char) :=
  (pieces body).reverse.dropWhile isBlankPiece

/-- The path of the directory that holds what a path leads to, unless it leads to a root. -/
def parent? (path : Path) : Option Path :=
  let (head, body) := headAndBody path.text.toList
  match reversePieces body with
  | _ :: above =>
    some ⟨String.ofList (head ++ unite (above.dropWhile isBlankPiece).reverse)⟩
  | [] => if head = ['.'] then some ⟨""⟩ else none

/-- Head and body of a text are all of it. -/
theorem headAndBody_append (text : List Char) :
    (headAndBody text).1 ++ (headAndBody text).2 = text := by
  fun_cases headAndBody text <;> rfl

/-- The number of characters of pieces when every one of them is followed by a slash. -/
def weight : List (List Char) → Nat
  | [] => 0
  | piece :: rest => piece.length + 1 + weight rest

/-- Pieces after one another weigh what each of them weighs. -/
theorem weight_append (first second : List (List Char)) :
    weight (first ++ second) = weight first + weight second := by
  induction first with
  | nil => simp [weight]
  | cons piece rest inductionHypothesis => simp [weight, inductionHypothesis]; omega

/-- The order of pieces does not matter for their weight. -/
theorem weight_reverse (list : List (List Char)) : weight list.reverse = weight list := by
  induction list with
  | nil => rfl
  | cons piece rest inductionHypothesis =>
    simp [weight, weight_append, inductionHypothesis]; omega

/-- Pieces put together lack only the last slash. -/
theorem length_unite (list : List (List Char)) : (unite list).length = weight list - 1 := by
  fun_induction unite list with
  | case1 => rfl
  | case2 piece => simp [weight]
  | case3 piece rest notNil inductionHypothesis =>
    obtain ⟨next, others, rfl⟩ := List.exists_cons_of_ne_nil notNil
    simp only [List.length_append, List.length_cons, inductionHypothesis, weight]
    omega

/-- Even the empty text has a piece. -/
theorem pieces_ne_nil (text : List Char) : pieces text ≠ [] := by
  cases text with
  | nil => simp [pieces]
  | cons character rest => simp only [pieces]; split <;> simp

/-- The pieces of a text take all of it. -/
theorem weight_pieces (text : List Char) : weight (pieces text) = text.length + 1 := by
  induction text with
  | nil => rfl
  | cons character rest inductionHypothesis =>
    simp only [pieces]
    split
    · simp [weight, inductionHypothesis]; omega
    · obtain ⟨first, others, equal⟩ := List.exists_cons_of_ne_nil (pieces_ne_nil rest)
      simp only [equal, weight] at inductionHypothesis
      simp only [equal, List.headD_cons, List.tail_cons, weight, List.length_cons]
      omega

/-- The parent of a path is shorter than the path. -/
theorem length_parent? {path parent : Path} (above : path.parent? = some parent) :
    parent.text.toList.length < path.text.toList.length := by
  have whole := congrArg List.length (headAndBody_append path.text.toList)
  revert above whole
  unfold parent?
  generalize headAndBody path.text.toList = parts
  obtain ⟨head, body⟩ := parts
  intro above whole
  simp only [List.length_append] at whole
  cases found : reversePieces body with
  | nil =>
    simp only [found] at above
    split at above
    · rename_i isDot
      simp only [Option.some.injEq] at above
      subst above isDot
      simp at whole ⊢
      omega
    · simp at above
  | cons last rest =>
    simp only [found, Option.some.injEq] at above
    subst above
    have notBlank : isBlankPiece last = false := by
      have := List.head?_dropWhile_not isBlankPiece (pieces body).reverse
      unfold reversePieces at found
      simpa [found] using this
    have positive : 0 < last.length := by
      cases last with
      | nil => simp [isBlankPiece] at notBlank
      | cons => simp
    have total : weight (pieces body).reverse = body.length + 1 := by
      rw [weight_reverse, weight_pieces]
    rw [← List.takeWhile_append_dropWhile (p := isBlankPiece) (l := (pieces body).reverse)]
      at total
    unfold reversePieces at found
    rw [found, ← List.takeWhile_append_dropWhile (p := isBlankPiece) (l := rest)] at total
    simp only [weight_append, weight] at total
    simp only [String.toList_ofList, List.length_append, length_unite, weight_reverse]
    omega

/-- The last name of a path, if it ends in one. -/
def fileName? (path : Path) : Option String :=
  match reversePieces (headAndBody path.text.toList).2 with
  | last :: _ => if last = ['.', '.'] then none else some (String.ofList last)
  | [] => none

/-- What follows the last dot of a name, unless the name starts with that dot. -/
def extensionOf (name : List Char) : Option (List Char) :=
  let after := (name.reverse.takeWhile (· != '.')).reverse
  if name.contains '.' ∧ after.length + 1 < name.length then some after else none

/-- The extension of the last name of a path. -/
def extension? (path : Path) : Option String :=
  path.fileName?.bind fun name => (extensionOf name.toList).map String.ofList

/-- Whether a path starts at the root. -/
def isAbsolute (path : Path) : Bool :=
  path.text.toList.head? == some '/'

/-- The path that `other` is below a directory; an absolute path stays as it is. -/
def join (directory : Path) (other : Path) : Path :=
  if other.isAbsolute ∨ directory.text = "" then other
  else if directory.text.toList.getLast? = some '/' then ⟨directory.text ++ other.text⟩
  else ⟨directory.text ++ "/" ++ other.text⟩

/-- The path of a name in a directory. -/
def child (directory : Path) (name : String) : Path :=
  directory.join ⟨name⟩

/-- Whether a text is a single name that stands for itself in any directory. -/
def isPlainName (name : String) : Bool :=
  !name.toList.any (fun character => character == '/' || character == '\\') &&
    !isBlankPiece name.toList && name != ".."

/-- A path between quotes, as messages show it. -/
def quoted (path : Path) : String :=
  Text.quote path.text

end Path
end QuizFeed
