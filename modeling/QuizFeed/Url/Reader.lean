import QuizFeed.Url.Host
import QuizFeed.Url.Path

/-!
# Reading urls

`Url.parse` reads an absolute url and `Url.join` a reference relative to one. Both first drop
controls and spaces at the ends, and tabs and line breaks anywhere. A url is its scheme, then an
authority after two slashes if there is one, then path, query and fragment.
-/

namespace QuizFeed.Url

/-- The characters of a text that count: neither controls and spaces at its ends nor tabs and line
breaks anywhere. -/
def clean (text : String) : List Char :=
  let outer (character : Char) := character.toNat ≤ 0x20
  let trimmed := ((text.toList.dropWhile outer).reverse.dropWhile outer).reverse
  trimmed.filter fun character => !(['\t', '\n', '\r'].contains character)

/-- Whether a character may occur in a scheme behind its first letter. -/
def isSchemeCharacter (character : Char) : Bool :=
  let code := character.toNat
  (97 ≤ code && code ≤ 122) || (65 ≤ code && code ≤ 90) || (48 ≤ code && code ≤ 57) ||
    character == '+' || character == '-' || character == '.'

/-- The scheme at the start of a text, in lower case, and what follows its colon. -/
def readScheme (text : List Char) : Option (List Char × List Char) :=
  let scheme := text.takeWhile isSchemeCharacter
  match scheme, text.drop scheme.length with
  | first :: _, ':' :: rest =>
    if (97 ≤ first.toNat && first.toNat ≤ 122) || (65 ≤ first.toNat && first.toNat ≤ 90) then
      some (scheme.map Domain.lowerAscii, rest)
    else none
  | _, _ => none

/-- Whether a character starts the query or the fragment. -/
def endsPath (character : Char) : Bool :=
  character == '?' || character == '#'

/-- The text of a path, and what follows it. -/
def splitPath (text : List Char) : List Char × List Char :=
  (text.takeWhile (!endsPath ·), text.dropWhile (!endsPath ·))

/-- The query and the fragment behind a path. -/
def readQueryAndFragment (kind : Kind) (text : List Char) : Option String × Option String :=
  let encoded := if kind = .plain then Percent.inQuery else Percent.inSpecialQuery
  let fragment (text : List Char) := String.ofList (Percent.encode Percent.inFragment text)
  match text with
  | '?' :: rest =>
    let query := String.ofList (Percent.encode encoded (rest.takeWhile (· != '#')))
    match rest.dropWhile (· != '#') with
    | [] => (some query, none)
    | _ :: rest => (some query, some (fragment rest))
  | '#' :: rest => (none, some (fragment rest))
  | _ => (none, none)

/-- What stands between the slashes and the path of a url. -/
structure Authority where
  username : List Char
  password : Option (List Char)
  host : List Char
  port : Option Nat

/-- Splits at the last `@` before the authority ends: the text before it, and what follows. -/
def splitUserinfo (kind : Kind) (text : List Char) : Option (List Char) × List Char :=
  let authority := text.takeWhile (!kind.endsAuthority ·)
  let afterAt := (authority.reverse.takeWhile (· != '@')).length
  if authority.contains '@' then
    (some (authority.take (authority.length - afterAt - 1)),
      text.drop (authority.length - afterAt))
  else (none, text)

/-- The user name and the password of a text before `@`; an empty password is none. -/
def readUserinfo (text : List Char) : List Char × Option (List Char) :=
  let encode := Percent.encode Percent.inUserinfo
  match text.dropWhile (· != ':') with
  | _ :: second :: rest => (encode (text.takeWhile (· != ':')), some (encode (second :: rest)))
  | _ => (encode (text.takeWhile (· != ':')), none)

/-- The text of a host: up to a colon outside brackets or the end of the authority. -/
def hostText (kind : Kind) (bracketed : Bool) : List Char → List Char
  | [] => []
  | character :: rest =>
    if kind.endsAuthority character || (character == ':' && !bracketed) then []
    else if character = '[' then character :: hostText kind true rest
    else if character = ']' then character :: hostText kind false rest
    else character :: hostText kind bracketed rest

/-- The digits of a port: its value, if there are any, and what follows. -/
def readPort (value : Option Nat) : List Char → Except Failure (Option Nat × List Char)
  | [] => .ok (value, [])
  | character :: rest =>
    if 48 ≤ character.toNat ∧ character.toNat ≤ 57 then
      let next := value.getD 0 * 10 + (character.toNat - 48)
      if next > 65535 then .error .invalidPort else readPort (some next) rest
    else if Kind.endsAuthority .special character then .ok (value, character :: rest)
    else .error .invalidPort

/-- Reads the host at the start of a text, and gives what follows it. -/
def readHost (kind : Kind) (text : List Char) : Except Failure (List Char × List Char) :=
  let written := hostText kind false text
  let rest := text.drop written.length
  if kind = .special then
    if written = [] then .error .emptyHost
    else (Host.readSpecial written).map fun host => (host, rest)
  else (Host.readPlain written).map fun host => (host, rest)

/-- Reads the port behind a host, if there is one, and gives what follows it. -/
def readPortBehind (host rest : List Char) : Except Failure (Option Nat × List Char) :=
  match rest with
  | ':' :: rest => if host = [] then .error .emptyHost else readPort none rest
  | _ => .ok (none, rest)

/-- Reads the authority behind two slashes, and gives what follows it. -/
def readAuthority (scheme : List Char) (text : List Char) :
    Except Failure (Authority × List Char) :=
  let kind := kindOf scheme
  let (userinfo, rest) := splitUserinfo kind text
  if userinfo = some [] ∧ rest.head?.any kind.endsAuthority then .error .emptyHost
  else do
    let (username, password) := readUserinfo (userinfo.getD [])
    let (host, rest) ← readHost kind rest
    let (port, rest) ← readPortBehind host rest
    if host = [] ∧ (username ≠ [] ∨ password.isSome) then .error .emptyHost
    else
      let port := if port = defaultPort scheme then none else port
      .ok (⟨username, password, host, port⟩, rest)

/-- A text, or nothing for an empty one. -/
def textOrNone (text : List Char) : Option String :=
  if text.isEmpty then none else some (String.ofList text)

/-- A url whose authority and path text are known; `above` are the segments before that text. -/
def assemble (scheme : List Char) (authority : Authority) (above : List (List Char))
    (text rest : List Char) : Url :=
  let kind := kindOf scheme
  let (query, fragment) := readQueryAndFragment kind rest
  { scheme := String.ofList scheme
    username := String.ofList authority.username
    password := authority.password.map String.ofList
    host := textOrNone authority.host
    port := authority.port
    path := String.ofList (Path.read kind above text)
    query := query
    fragment := fragment }

/-- Reads a url with a special scheme, or one with an authority, behind its two slashes. -/
def readWithAuthority (scheme : List Char) (text : List Char) : Except Failure Url := do
  let (authority, rest) ← readAuthority scheme text
  let (path, rest) := splitPath rest
  match kindOf scheme, path with
  | .plain, [] => pure { assemble scheme authority [] [] rest with path := "" }
  | kind, first :: path =>
    if kind.separates first then pure (assemble scheme authority [] path rest)
    else pure (assemble scheme authority [] (first :: path) rest)
  | _, [] => pure (assemble scheme authority [] [] rest)

/-- No authority. -/
def Authority.none : Authority :=
  ⟨[], Option.none, [], Option.none⟩

/-- The authority that consists of a host only. -/
def Authority.ofHost (host : List Char) : Authority :=
  ⟨[], Option.none, host, Option.none⟩

/-- Reads the host and the path of a `file` url behind its two slashes. -/
def readFileHost (scheme : List Char) (text : List Char) : Except Failure Url := do
  let written := text.takeWhile (!Kind.endsAuthority .file ·)
  if written = [] ∨ Path.isDrive written then
    let (path, rest) := splitPath text
    pure (assemble scheme .none [] path rest)
  else
    let host ← Host.readSpecial written
    let (path, rest) := splitPath (text.drop written.length)
    if host = "localhost".toList then pure (assemble scheme .none [] path rest)
    else
      let path := path.drop 1
      let authority :=
        if Path.meetsDrive [] (Path.segments .file path) then Authority.none
        else Authority.ofHost host
      pure (assemble scheme authority [] path rest)

/-- Reads a `file` url behind its colon. -/
def readFile (scheme : List Char) (text : List Char) : Except Failure Url :=
  match text with
  | first :: second :: rest =>
    if Kind.separates .file first && Kind.separates .file second then readFileHost scheme rest
    else if Kind.separates .file first then readLocal (second :: rest)
    else readLocal text
  | [first] => if Kind.separates .file first then readLocal [] else readLocal text
  | [] => readLocal text
where
  /-- A path on no host. -/
  readLocal (text : List Char) : Except Failure Url :=
    let (path, rest) := splitPath text
    .ok (assemble scheme .none [] path rest)

/-- Reads a url whose scheme is not special behind its colon. -/
def readPlain (scheme : List Char) (text : List Char) : Except Failure Url :=
  match text with
  | '/' :: '/' :: rest => readWithAuthority scheme rest
  | '/' :: rest =>
    let (path, rest) := splitPath rest
    .ok (assemble scheme .none [] path rest)
  | _ =>
    let (path, rest) := splitPath text
    .ok { assemble scheme .none [] [] rest with
      path := String.ofList (Percent.encode Percent.isControl path) }

/-- Reads a url behind its scheme. -/
def readAfterScheme (scheme : List Char) (text : List Char) : Except Failure Url :=
  match kindOf scheme with
  | .file => readFile scheme text
  | .special => readWithAuthority scheme (text.dropWhile (Kind.separates .special ·))
  | .plain => readPlain scheme text

/-- Reads an absolute url. -/
def parse (text : String) : Except Failure Url :=
  match readScheme (clean text) with
  | some (scheme, rest) => readAfterScheme scheme rest
  | none => .error .relativeWithoutBase

/-- The authority of a url that has been read. -/
def authority (url : Url) : Authority :=
  { username := url.username.toList
    password := url.password.map String.toList
    host := (url.host.getD "").toList
    port := url.port }

/-- The segments of the path of a url, in reverse. -/
def reverseSegments (url : Url) : List (List Char) :=
  (Domain.splitAt '/' (url.path.toList.drop 1)).reverse

/-- Reads a reference without a scheme relative to a url with a special scheme. -/
def joinRelative (base : Url) (text : List Char) : Except Failure Url :=
  let scheme := base.scheme.toList
  let below (above : List (List Char)) (text : List Char) : Url :=
    let (path, rest) := splitPath text
    assemble scheme base.authority above path rest
  match text with
  | [] => .ok { base with fragment := none }
  | first :: rest =>
    if first = '#' then .ok { base with fragment := (readQueryAndFragment .special text).2 }
    else if first = '?' then
      let (query, fragment) := readQueryAndFragment .special text
      .ok { base with query := query, fragment := fragment }
    else if Kind.separates .special first then
      match text with
      | '/' :: '/' :: rest => readWithAuthority scheme rest
      | _ =>
        if rest.head?.any (Kind.separates .special) then
          readWithAuthority scheme (rest.dropWhile (Kind.separates .special ·))
        else .ok (below [] rest)
    else .ok (below base.reverseSegments.tail text)

/-- Reads a reference relative to a url whose scheme is special and not `file`. -/
def join (base : Url) (reference : String) : Except Failure Url :=
  let text := clean reference
  match readScheme text with
  | none => joinRelative base text
  | some (scheme, rest) =>
    let slashes := (rest.takeWhile (Kind.separates .special ·)).length
    if String.ofList scheme = base.scheme ∧ slashes < 2 then joinRelative base rest
    else readAfterScheme scheme rest

end QuizFeed.Url
