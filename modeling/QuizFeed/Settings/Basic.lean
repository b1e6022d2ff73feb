import QuizFeed.Path
import QuizFeed.Text.Blank

/-!
# Settings

Which feed to load, and where images are kept. `FeedSettings.address` is the url that the feed is
loaded from.
-/

namespace QuizFeed

/-- What has to be known to load a feed. -/
@[ext] structure FeedSettings where
  token : Option String := none
  template : String := "https://www.riddle.com/apiv3/item/token/%%TOKEN%%?client=d8"
  unpublished : Bool := false
  titleStart : String := "Riddle "
  deriving DecidableEq, Repr

/-- Where images are kept. -/
@[ext] structure MediaSettings where
  images : Path := ⟨"thumbnails/riddle"⟩
  icons : Path := ⟨"icons"⟩
  deriving DecidableEq, Repr

/-- All settings. -/
@[ext] structure Settings where
  feed : FeedSettings := {}
  media : MediaSettings := {}
  deriving DecidableEq, Repr

namespace FeedSettings

/-- The token without blanks around it, unless nothing is left of it. -/
def usableToken (settings : FeedSettings) : Option String :=
  (settings.token.map Text.trim).filter (· != "")

/-- The characters that stand for the token in a template. -/
def placeholder : List Char :=
  "%%TOKEN%%".toList

/-- Replaces the placeholder everywhere, from left to right; `skip` characters of it are left. -/
def substitute (token : List Char) (skip : Nat) : List Char → List Char
  | [] => []
  | character :: rest =>
    match skip with
    | skip + 1 => substitute token skip rest
    | 0 =>
      if placeholder.isPrefixOf (character :: rest) then
        token ++ substitute token (placeholder.length - 1) rest
      else character :: substitute token 0 rest

/-- Asks for published entries only. -/
def restrict (url : List Char) : List Char :=
  url ++ (if url.contains '?' then '&' else '?') :: "status=published".toList

/-- The url that a token gives. -/
def addressFor (settings : FeedSettings) (token : String) : String :=
  let url := substitute token.toList 0 settings.template.toList
  String.ofList (if settings.unpublished then url else restrict url)

/-- The url to load the feed from, if there is a usable token. -/
def address (settings : FeedSettings) : Option String :=
  settings.usableToken.map settings.addressFor

end FeedSettings
end QuizFeed
