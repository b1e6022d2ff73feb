import QuizFeed.Feed.Basic
import QuizFeed.Feed.Image
import QuizFeed.Json.Value

/-!
# From a response to a feed

A response is a list of items. An item that has an identifier and some data projects to an entry;
every other item is counted as skipped. A later item takes the place of an earlier one with the
same identifier.
-/

namespace QuizFeed

open QuizFeed.Json

namespace Projection

/-- The member of an item under a key, if it is an object with at least one member. -/
def filledObject? (key : String) (item : Value) : Option Value :=
  (item.member? key).filter fun value => value.members?.any (!·.isEmpty)

/-- The text of a value, if it is not empty. -/
def filledText? (value : Value) : Option String :=
  value.text?.filter (· != "")

/-- The identifier that a value denotes: a text that is not empty, or a number as text. -/
def uid? : Value → Option String
  | .text text => if text = "" then none else some text
  | .number number => some number.render
  | _ => none

/-- The title that some data gives. -/
def title? (data : Value) : Option String :=
  (data.member? "title").bind filledText?

/-- A text of the image that some data describes. -/
def imageText? (key : String) (data : Value) : Option String :=
  ((data.member? "image").bind (Value.member? key)).bind filledText?

/-- The address of the image that some data describes. -/
def image? (data : Value) : Option String :=
  (imageText? "standard" data).bind fun reference =>
    Image.address reference (imageText? "format" data)

/-- The entry that an item projects to. Published data comes before draft data, separately for
the title and for the image. -/
def entry? (titleStart : String) (item : Value) : Option Entry := do
  let sources := [filledObject? "data" item, filledObject? "draftData" item].filterMap id
  if sources.isEmpty then none
  let uid ← (item.member? "uid").bind uid?
  some {
    uid := uid
    title := (sources.findSome? title?).getD (titleStart ++ uid)
    status := .ofText ((item.member? "status").bind Value.text?)
    image := (sources.find? fun data => (imageText? "standard" data).isSome).bind image? }

end Projection

/-- A feed, and the number of items that it leaves out. -/
structure Projection where
  feed : Feed
  skipped : Nat
  deriving DecidableEq

namespace Projection

/-- The feed of no items. -/
def empty : Projection :=
  ⟨.empty, 0⟩

/-- The projection with one more item. -/
def add (titleStart : String) (projection : Projection) (item : Value) : Projection :=
  match entry? titleStart item with
  | some entry => { projection with feed := (projection.feed.insert entry).2 }
  | none => { projection with skipped := projection.skipped + 1 }

/-- The projection of a response; anything but a list has no items. -/
def ofValue (titleStart : String) (response : Value) : Projection :=
  (response.items?.getD []).foldl (add titleStart) empty

end Projection
end QuizFeed
