import QuizFeed.Files.Write
import QuizFeed.Media.Field

/-!
# Local copies of images

The image of an entry is downloaded once, into the image directory. As long as the copy is there it
is used, whatever the feed says later.
-/

namespace QuizFeed.Media

/-- Why there is no local copy of an image. -/
inductive ThumbnailFailure where
  | fetch (failure : Fetch.Failure)
  | write (failure : Files.WriteFailure)
  deriving DecidableEq, Repr

/-- The wording of a failure. -/
def ThumbnailFailure.message : ThumbnailFailure → String
  | fetch failure => "thumbnail download failed: " ++ failure.message
  | write failure => "thumbnail could not be stored: " ++ failure.message

/-- The part of the library that reports. -/
def origin : String := "riddle_engine::thumbnail"

/-- Downloads an image to a path. -/
def downloadThumbnail (code image : String) (target : Path) :
    Program (Except ThumbnailFailure Path) := do
  match ← Program.fetch image with
  | .error failure => pure (.error (.fetch failure))
  | .ok content =>
    let directory := target.parent?.getD ⟨""⟩
    match ← Program.writeFile directory (target.fileName?.getD "") content with
    | .error failure => pure (.error (.write failure))
    | .ok written =>
      Program.report .info origin
        ("Stored thumbnail for " ++ code ++ " (" ++ toString content.size ++ " bytes) at " ++
          written.quoted)
      pure (.ok written)

/-- The path of the local copy of the image of the quiz with some code, if it has an image. The
copy is made if it is missing. -/
def localize (feed : Feed) (code : String) (settings : MediaSettings) :
    Program (Except ThumbnailFailure (Option Path)) := do
  match feed.get? code with
  | none => pure (.ok none)
  | some entry =>
    match entry.image, entry.localImage? settings.images with
    | some image, some target =>
      match ← Program.inspect target with
      | .ok _ => pure (.ok (some target))
      | .error _ =>
        match ← downloadThumbnail code image target with
        | .ok written => pure (.ok (some written))
        | .error failure => pure (.error failure)
    | _, _ => pure (.ok none)

end QuizFeed.Media
