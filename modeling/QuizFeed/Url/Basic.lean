/-!
# Urls

A url in parts, each part in the form in which it is written: the host in its ASCII form, path,
query and fragment with every character percent-encoded that needs to be.
-/

namespace QuizFeed

/-- A url that has been read. `host` is absent when nothing or an empty name stands for it. -/
@[ext] structure Url where
  scheme : String
  username : String
  password : Option String
  host : Option String
  port : Option Nat
  path : String
  query : Option String
  fragment : Option String
  deriving DecidableEq, Repr

namespace Url

/-- Why a text is not a url. -/
inductive Failure where
  | emptyHost
  | internationalName
  | invalidPort
  | invalidIpv4
  | invalidIpv6
  | forbiddenHostCharacter
  | relativeWithoutBase
  deriving DecidableEq, Repr

/-- The wording of a failure. -/
def Failure.message : Failure → String
  | emptyHost => "empty host"
  | internationalName => "invalid international domain name"
  | invalidPort => "invalid port number"
  | invalidIpv4 => "invalid IPv4 address"
  | invalidIpv6 => "invalid IPv6 address"
  | forbiddenHostCharacter => "invalid domain character"
  | relativeWithoutBase => "relative URL without a base"

/-- The kinds of schemes, by how what follows them is read. -/
inductive Kind where
  | file
  | special
  | plain
  deriving DecidableEq, Repr

/-- The kind of a scheme in lower case. -/
def kindOf (scheme : List Char) : Kind :=
  if scheme = "file".toList then .file
  else if ["http", "https", "ws", "wss", "ftp"].contains (String.ofList scheme) then .special
  else .plain

/-- The port that a scheme implies. -/
def defaultPort (scheme : List Char) : Option Nat :=
  match String.ofList scheme with
  | "http" | "ws" => some 80
  | "https" | "wss" => some 443
  | "ftp" => some 21
  | _ => none

/-- Whether a character separates path segments of a url of some kind. -/
def Kind.separates (kind : Kind) (character : Char) : Bool :=
  character == '/' || (character == '\\' && kind != .plain)

/-- Whether a character ends the authority of a url of some kind. -/
def Kind.endsAuthority (kind : Kind) (character : Char) : Bool :=
  kind.separates character || character == '?' || character == '#'

end Url
end QuizFeed
