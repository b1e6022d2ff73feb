import QuizFeed.Feed.Basic
import QuizFeed.Settings.Basic
import QuizFeed.Url.Reader

/-!
# Fields of a media item

What can be asked about one quiz. The local copy of its image is named for its uid, so a uid that
is not a plain file name has none.
-/

namespace QuizFeed

/-- Where the local copy of an entry's image belongs: its uid with the extension of the image's
path, in the image directory. -/
def Entry.localImage? (entry : Entry) (directory : Path) : Option Path :=
  if Path.isPlainName entry.uid then
    entry.image.map fun image =>
      let extension := (Url.parse image).toOption.bind fun url => (Path.mk url.path).extension?
      directory.child (entry.uid ++ "." ++ extension.getD "")
  else none

/-- The image shown where there is no other. -/
def MediaSettings.defaultImage (settings : MediaSettings) : Path :=
  settings.icons.child "riddle.png"

namespace Media

/-- The fields of a media item. -/
inductive Field where
  | id
  | title
  | status
  | thumbnail
  | localThumbnail
  deriving DecidableEq, Repr

/-- The field that a name stands for. -/
def Field.ofName? : String → Option Field
  | "id" => some id
  | "title" => some title
  | "status" => some status
  | "thumbnail" => some thumbnail
  | "thumbnail_local_uri" => some localThumbnail
  | _ => none

/-- What is said about a name that stands for no field. -/
def Field.unknownMessage (name : String) : String :=
  "unknown media field: " ++ name

/-- The value of a field. -/
inductive Value where
  | text (content : String)
  | status (entryStatus : Status)
  | path (location : Path)
  deriving DecidableEq, Repr

/-- A value as it is shown. -/
def Value.display : Value → String
  | .text content => content
  | .status entryStatus => toString entryStatus.flag
  | .path location => location.text

/-- The value of a field for the quiz with some code. The identifier is the code itself, whatever
the feed holds; an empty code has no value at all. -/
def value? (feed : Feed) (code : String) (field : Field) (settings : MediaSettings) :
    Option Value :=
  if code = "" then none
  else
    match field with
    | .id => some (.text code)
    | .title => (feed.get? code).map fun entry => .text entry.title
    | .status => (feed.get? code).map fun entry => .status entry.status
    | .thumbnail => ((feed.get? code).bind Entry.image).map .text
    | .localThumbnail =>
      ((feed.get? code).bind fun entry => entry.localImage? settings.images).map .path

end Media
end QuizFeed
