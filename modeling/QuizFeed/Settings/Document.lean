import QuizFeed.Ron.Document
import QuizFeed.Ron.Printer
import QuizFeed.Settings.Basic

/-!
# Settings as documents

Settings are written with all their fields. When they are read, a field that is missing takes its
default, and so does a whole group.
-/

namespace QuizFeed

open Ron

namespace FeedSettings

/-- Feed settings as a value to be written. -/
def toValue (settings : FeedSettings) : Value :=
  .record [
    ("token", match settings.token with
      | none => .none
      | some token => .some (.string token)),
    ("api_url_template", .string settings.template),
    ("fetch_unpublished", .boolean settings.unpublished),
    ("empty_title_prefix", .string settings.titleStart)]

/-- The fields of feed settings that have been read. -/
structure Partial where
  token : Option (Option String) := none
  template : Option String := none
  unpublished : Option Bool := none
  titleStart : Option String := none

/-- Feed settings with the default for every field that has not been read. -/
def Partial.complete (read : Partial) : FeedSettings :=
  let default : FeedSettings := {}
  { token := read.token.getD default.token
    template := read.template.getD default.template
    unpublished := read.unpublished.getD default.unpublished
    titleStart := read.titleStart.getD default.titleStart }

/-- The fields of feed settings. -/
def fields : List (RecordField Partial) :=
  [.of "token" Partial.token (fun state token => { state with token := some token })
      (Reader.option Reader.string),
    .of "api_url_template" Partial.template
      (fun state template => { state with template := some template }) Reader.string,
    .of "fetch_unpublished" Partial.unpublished
      (fun state unpublished => { state with unpublished := some unpublished }) Reader.boolean,
    .of "empty_title_prefix" Partial.titleStart
      (fun state titleStart => { state with titleStart := some titleStart }) Reader.string]

/-- Reads feed settings, where values passed over may be `depth` levels deep. -/
def reader (depth : Nat) : Reader FeedSettings :=
  Reader.record "FeedSettings" depth fields {} fun read => .ok read.complete

end FeedSettings

namespace MediaSettings

/-- Media settings as a value to be written. -/
def toValue (settings : MediaSettings) : Value :=
  .record [
    ("local_images", .string settings.images.text),
    ("icon_base", .string settings.icons.text)]

/-- The fields of media settings that have been read. -/
structure Partial where
  images : Option Path := none
  icons : Option Path := none

/-- Media settings with the default for every field that has not been read. -/
def Partial.complete (read : Partial) : MediaSettings :=
  let default : MediaSettings := {}
  { images := read.images.getD default.images
    icons := read.icons.getD default.icons }

/-- The fields of media settings. -/
def fields : List (RecordField Partial) :=
  [.of "local_images" Partial.images (fun state images => { state with images := some images })
      (Path.mk <$> Reader.string),
    .of "icon_base" Partial.icons (fun state icons => { state with icons := some icons })
      (Path.mk <$> Reader.string)]

/-- Reads media settings, where values passed over may be `depth` levels deep. -/
def reader (depth : Nat) : Reader MediaSettings :=
  Reader.record "MediaSettings" depth fields {} fun read => .ok read.complete

end MediaSettings

namespace Settings

/-- Settings as a value to be written. -/
def toValue (settings : Settings) : Value :=
  .record [("feed", settings.feed.toValue), ("media", settings.media.toValue)]

/-- The groups of settings that have been read. -/
structure Partial where
  feed : Option FeedSettings := none
  media : Option MediaSettings := none

/-- Settings with the default for every group that has not been read. -/
def Partial.complete (read : Partial) : Settings :=
  { feed := read.feed.getD {}, media := read.media.getD {} }

/-- The groups of settings. A record and the value in it take two levels of depth. -/
def fields : List (RecordField Partial) :=
  [.of "feed" Partial.feed (fun state feed => { state with feed := some feed })
      (FeedSettings.reader (Reader.depthLimit - 4)),
    .of "media" Partial.media (fun state media => { state with media := some media })
      (MediaSettings.reader (Reader.depthLimit - 4))]

/-- Reads settings. -/
def reader : Reader Settings :=
  Reader.record "AppSettings" (Reader.depthLimit - 2) fields {} fun read => .ok read.complete

/-- The document of some settings. -/
def document (settings : Settings) : String :=
  settings.toValue.document

/-- The settings that a document holds. -/
def ofDocument (text : String) : Except Failure Settings :=
  Ron.read reader text

end Settings
end QuizFeed
