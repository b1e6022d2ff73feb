import QuizFeed.Fetch.Failure
import QuizFeed.Fetch.Reason
import QuizFeed.Url.Reader

/-!
# Downloads

A download builds an HTTP client, asks it once for a url, and takes the body of the answer if that
is a success, whole, and not too large. Redirects are followed by the client, up to a limit that it
is given. Nothing is asked for again after a failure.
-/

namespace QuizFeed.Fetch

/-- How the bytes of a body end. -/
inductive Ending where
  | complete
  | failed (isTimedOut : Bool) (text : String)
  deriving DecidableEq, Repr

/-- An answer as a client hands it over: the size of the body if it is known in advance, and the
bytes that can be read of it, up to its end or an error. -/
structure Received where
  status : Nat
  length : Option UInt64
  bytes : List UInt8
  ending : Ending
  deriving DecidableEq, Repr

/-- The error of a client that has no answer to hand over. -/
structure SendFailure where
  isTimeout : Bool
  isRedirect : Bool
  text : String
  deriving DecidableEq, Repr

/-- An HTTP client: whether it can be built, and what comes of asking it for a url, where it may
follow a number of redirects. The requests are listed in order. -/
structure Client where
  build : Except String Unit
  send : Nat → Url → List Url × Except SendFailure Received

/-- The client of a machine that knows no certificate authorities. It cannot be built. -/
def Client.unbuilt : Client where
  build := .error "builder error"
  send _ _ := ([], .error ⟨false, false, "builder error"⟩)

/-- The limits of a download: the number of redirects and the size of the body. -/
structure Limits where
  redirects : Nat := 5
  size : UInt64 := 5242880
  deriving DecidableEq, Repr

/-- A download that failed on the way. -/
def networkFailure (detail : String) : Failure :=
  ⟨.network, detail⟩

/-- A body larger than allowed. -/
def tooLarge (greatest actual : Nat) : Failure :=
  ⟨.tooLarge greatest (some actual), "response too large"⟩

/-- The failure of a download whose client has no answer. -/
def SendFailure.failure (failure : SendFailure) : Failure :=
  if failure.isTimeout then ⟨.timeout, failure.text⟩
  else if failure.isRedirect then ⟨.redirectLimit, failure.text⟩
  else networkFailure failure.text

namespace Received

/-- Whether an answer is a success. -/
def isSuccess (received : Received) : Bool :=
  200 ≤ received.status && received.status < 300

/-- Reads the body up to `limit` bytes. An error behind them is not seen. -/
def read (received : Received) (limit : UInt64) : Except Failure (List UInt8) :=
  if limit.toNat ≤ received.bytes.length then .ok (received.bytes.take limit.toNat)
  else
    match received.ending with
    | .complete => .ok received.bytes
    | .failed true text => .error ⟨.timeout, text⟩
    | .failed false text => .error (networkFailure text)

/-- The body of an answer, if it has at most `greatest` bytes. The status is looked at first, then
the size that is known in advance, and last the bytes. One byte more than allowed is read, where the
sum wraps around at the greatest limit of all. -/
def content (received : Received) (greatest : UInt64) : Except Failure (List UInt8) := do
  if !received.isSuccess then
    .error ⟨.status received.status, statusText received.status⟩
  else
    match received.length.filter (greatest < ·) with
    | some length => .error (tooLarge greatest.toNat length.toNat)
    | none =>
      let bytes ← received.read (greatest + 1)
      if greatest.toNat < bytes.length then .error (tooLarge greatest.toNat bytes.length)
      else return bytes

end Received

/-- Downloads what a url leads to. -/
def download (client : Client) (limits : Limits) (url : String) : List Url × Reply :=
  match Url.parse url with
  | .error failure => ([], .error ⟨.invalidUrl, failure.message⟩)
  | .ok url =>
    match client.build with
    | .error text => ([], .error (networkFailure text))
    | .ok () =>
      let (requests, sent) := client.send limits.redirects url
      (requests, do
        let received ← sent.mapError SendFailure.failure
        let bytes ← received.content limits.size
        return ⟨bytes.toArray⟩)

end QuizFeed.Fetch
