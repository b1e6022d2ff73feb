import QuizFeed.Digest.Sha256
import QuizFeed.Text.Order

/-!
# Cache keys

Every token has a cache key of its own. A file for a key is named for the digest of the key, so
neither keys nor tokens can be read off a directory.
-/

namespace QuizFeed.Cache

/-- The key under which the feed of a token is kept. -/
def keyOf (token : String) : String :=
  "riddle_feed:" ++ token

/-- The hexadecimal digit with a value below 16. -/
def digitOf (value : Nat) : Char :=
  if value < 10 then Char.ofNat (value + 48) else Char.ofNat (value - 10 + 97)

/-- A byte as two hexadecimal digits. -/
def hexadecimal (byte : UInt8) : List Char :=
  [digitOf (byte.toNat / 16), digitOf (byte.toNat % 16)]

/-- The part of a key's digest that names its file: the first eight bytes. -/
def fingerprint (key : String) : List UInt8 :=
  (Digest.sha256 (Text.bytes key)).take 8

/-- The name of the file for a key. -/
def fileName (key : String) : String :=
  "feed-" ++ String.ofList ((fingerprint key).flatMap hexadecimal) ++ ".ron"

end QuizFeed.Cache
