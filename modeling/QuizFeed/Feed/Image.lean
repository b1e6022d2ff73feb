import QuizFeed.Url.Reader

/-!
# Image addresses

A feed gives images as absolute urls or relative to its own host, sometimes without a file
extension but with a hint at the format. `Image.address` is the absolute address: scheme, host and
path only, and the hint as an extension where the last segment of the path has none.
-/

namespace QuizFeed.Image

/-- The site that relative images belong to. -/
def site : String :=
  "https://www.riddle.com"

/-- The url of that site. -/
def siteUrl : Url where
  scheme := "https"
  username := ""
  password := none
  host := some "www.riddle.com"
  port := none
  path := "/"
  query := none
  fragment := none

/-- The url that an image reference denotes. -/
def url? (reference : String) : Option Url :=
  match Url.parse reference with
  | .ok url => some url
  | .error .relativeWithoutBase => (siteUrl.join reference).toOption
  | .error _ => none

/-- The last segment of a path. -/
def lastSegment (path : List Char) : List Char :=
  (path.reverse.takeWhile (· != '/')).reverse

/-- Whether the last segment of a path has a dot with something behind it. -/
def hasExtension (path : List Char) : Bool :=
  let reversed := (lastSegment path).reverse
  reversed.contains '.' && reversed.head? != some '.'

/-- The address of a url: without user, port, query and fragment, and on the own site if the url
has no host. -/
def locate (url : Url) : String :=
  match url.host with
  | some host => url.scheme ++ "://" ++ host ++ url.path
  | none => if url.path.toList.head? = some '/' then site ++ url.path else site ++ "/" ++ url.path

/-- The extension that a hint adds to a path. -/
def extension (path : String) : Option String → String
  | none => ""
  | some hint => if hint = "" ∨ hasExtension path.toList then "" else "." ++ hint

/-- The absolute address of an image. -/
def address (reference : String) (hint : Option String) : Option String :=
  (url? reference).map fun url => locate url ++ extension url.path hint

end QuizFeed.Image
