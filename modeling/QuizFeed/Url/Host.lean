import QuizFeed.Url.Address
import QuizFeed.Url.Basic

/-!
# Hosts

The host of a url with a special scheme is a numeric address or a domain name, which is
percent-decoded and put into ASCII. Any other scheme takes a host name as it is.
-/

namespace QuizFeed.Url.Host

/-- The host inside brackets, with its brackets. -/
def readBracketed (text : List Char) : Except Failure (List Char) :=
  if text.getLast? = some ']' then
    match Address.readIpv6 (text.drop 1).dropLast with
    | some pieces => .ok ('[' :: Address.writeIpv6 pieces ++ [']'])
    | none => .error .invalidIpv6
  else .error .invalidIpv6

/-- Reads the host of a url with a special scheme. -/
def readSpecial (text : List Char) : Except Failure (List Char) :=
  if text.head? = some '[' then readBracketed text
  else
    match (String.fromUTF8? ⟨(Percent.decode text).toArray⟩).bind
        fun name => Domain.toAscii name.toList with
    | none => .error .internationalName
    | some name =>
      if name.isEmpty then .error .emptyHost
      else if Address.endsInNumber name then
        match Address.readIpv4 name with
        | some address => .ok (Address.writeIpv4 address)
        | none => .error .invalidIpv4
      else .ok name

/-- Characters that a host of any other scheme may not hold. -/
def isForbidden (character : Char) : Bool :=
  ['\x00', '\t', '\n', '\r', ' ', '#', '/', ':', '<', '>', '?', '@', '[', '\\', ']', '^',
    '|'].contains character

/-- Reads the host of a url whose scheme is not special. -/
def readPlain (text : List Char) : Except Failure (List Char) :=
  if text.head? = some '[' then readBracketed text
  else if text.any isForbidden then .error .forbiddenHostCharacter
  else .ok (Percent.encode Percent.isControl text)

end QuizFeed.Url.Host
