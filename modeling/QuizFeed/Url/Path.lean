import QuizFeed.Url.Basic
import QuizFeed.Url.Percent

/-!
# Url paths

A path is a list of segments, each with a slash before it. `.` and `..`, also with encoded dots,
are resolved while the segments are read. A drive letter is never removed by `..`, and as the first
segment of a `file` url it also replaces the host.
-/

namespace QuizFeed.Url.Path

/-- Splits a path text at its separators; there is always at least one segment. -/
def split (kind : Kind) : List Char → List (List Char)
  | [] => [[]]
  | character :: rest =>
    let segments := split kind rest
    if kind.separates character then [] :: segments
    else (character :: segments.headD []) :: segments.tail

/-- A segment with its encoded dots written out. -/
def decodeDots : List Char → List Char
  | '%' :: '2' :: 'e' :: rest => '.' :: decodeDots rest
  | '%' :: '2' :: 'E' :: rest => '.' :: decodeDots rest
  | character :: rest => character :: decodeDots rest
  | [] => []

/-- Whether a segment stands for the current place. -/
def isCurrent (segment : List Char) : Bool :=
  decodeDots segment == ['.']

/-- Whether a segment stands for the place above. -/
def isParent (segment : List Char) : Bool :=
  decodeDots segment == ['.', '.']

/-- Whether a segment is a letter followed by a colon or a bar. -/
def isDrive : List Char → Bool
  | [letter, mark] =>
    let code := letter.toNat
    ((65 ≤ code && code ≤ 90) || (97 ≤ code && code ≤ 122)) && (mark == ':' || mark == '|')
  | _ => false

/-- The segments above those given in reverse; a drive letter stays. -/
def parent : List (List Char) → List (List Char)
  | [] => []
  | segment :: above => if isDrive segment then segment :: above else above

/-- What a segment adds to the segments before it, given in reverse. -/
def step (kind : Kind) (above : List (List Char)) (segment : List Char) : List (List Char) :=
  if isParent segment then parent above
  else if isCurrent segment then above
  else if kind = .file ∧ above = [] ∧ isDrive segment then [segment.take 1 ++ [':']]
  else segment :: above

/-- The segments of a path in reverse: the last of them is empty if the text ends in a separator
or in a segment of dots. -/
def resolve (kind : Kind) (above : List (List Char)) : List (List Char) → List (List Char)
  | [] => above
  | [last] =>
    if isParent last || isCurrent last then [] :: step kind above last else step kind above last
  | segment :: rest => resolve kind (step kind above segment) rest

/-- Whether a drive letter is the first segment at some point while a path is resolved. -/
def meetsDrive (above : List (List Char)) : List (List Char) → Bool
  | [] => false
  | segment :: rest =>
    (above.isEmpty && isDrive segment) || meetsDrive (step .file above segment) rest

/-- The text of a path: every segment with a slash before it. -/
def write (segments : List (List Char)) : List Char :=
  segments.flatMap ('/' :: ·)

/-- The encoded segments of a path text, which starts behind the first slash. -/
def segments (kind : Kind) (text : List Char) : List (List Char) :=
  (split kind text).map (Percent.encode Percent.inPath)

/-- The path that a text behind the first slash denotes, below the segments `above`, given in
reverse. A `file` path starts with only one slash. -/
def read (kind : Kind) (above : List (List Char)) (text : List Char) : List Char :=
  let path := write (resolve kind above (segments kind text)).reverse
  if kind = .file then '/' :: path.dropWhile (· == '/') else path

end QuizFeed.Url.Path
