import Mathlib.Data.List.Chain
import QuizFeed.Proofs.Fetch.Servers
import QuizFeed.Proofs.Results

/-!
# Where a download leads

A url sends on to another one, or a download ends there (`Ends`). So the redirects from a url on, up
to a limit, lead to an end, or there are more of them (`leads_cases`), and the one or the other
decides what a client that obeys its server comes back with (`Client.Obeys.send_of_ends_behind`,
`Client.Obeys.send_of_leads_beyond`). What an answer gives in the end is decided by its status, by
the size that it declares, and by the bytes that follow it, in this order (`content_settles`,
`Settles.unique`).
-/

namespace QuizFeed.Fetch

/-- Whether a number of redirects leads from one url to another. -/
inductive Leads (respond : Url → Response) : Nat → Url → Url → Prop where
  | here {url} : Leads respond 0 url url
  | on {count url next last} (sends : SendsOn respond url next)
      (rest : Leads respond count next last) : Leads respond (count + 1) url last

/-- What comes of a url that does not send on: the request for it, and the answer or the kind of
failure. -/
inductive Ends (respond : Url → Response) (url : Url) :
    List Url → Except Kind Answer → Prop where
  | unsupported (noScheme : isSupported url = false) : Ends respond url [] (.error .network)
  | broken (supported : isSupported url = true) (noAnswer : (respond url).outcome = .broken) :
      Ends respond url [url] (.error .network)
  | silent (supported : isSupported url = true) (noAnswer : (respond url).outcome = .silent) :
      Ends respond url [url] (.error .timeout)
  | arrived {answer} (supported : isSupported url = true)
      (answered : (respond url).outcome = .answered answer)
      (stays : ∀ next, ¬ SendsOn respond url next) : Ends respond url [url] (.ok answer)

/-- Whether a client comes back with an answer, or with a failure of some kind. -/
inductive Returns : Except Kind Answer → Except SendFailure Received → Prop where
  | failed {kind} {failure : SendFailure} (isKind : failure.failure.kind = kind) :
      Returns (.error kind) (.error failure)
  | answered {answer received} (presents : Presents answer received) :
      Returns (.ok answer) (.ok received)

/-- The body that some framing marks in the bytes that follow an answer. -/
inductive Frames : Framing → List UInt8 → List UInt8 → Prop where
  | length {declared stream} (enough : declared.toNat ≤ stream.length) :
      Frames (.length declared) stream (stream.take declared.toNat)
  | chunked {stream} : Frames (.chunked true) stream stream
  | untilClose {stream} : Frames .untilClose stream stream

/-- Whether a body is too large, and the size that is taken for its size: the one that is declared,
or else one byte more than is allowed. -/
inductive Exceeds (greatest : Nat) : Framing → List UInt8 → Nat → Prop where
  | declared {declared stream} (isOver : greatest < declared.toNat) :
      Exceeds greatest (.length declared) stream declared.toNat
  | delivered {framing stream} (undeclared : ∀ declared, framing ≠ .length declared)
      (isOver : greatest < stream.length) : Exceeds greatest framing stream (greatest + 1)

/-- What comes of a body that may have a greatest size. -/
inductive Delivers (greatest : Nat) (framing : Framing) (stream : List UInt8) :
    Except Failure (List UInt8) → Prop where
  | tooLarge {actual} (exceeds : Exceeds greatest framing stream actual) :
      Delivers greatest framing stream (.error (tooLarge greatest actual))
  | whole {body} (fits : ∀ actual, ¬ Exceeds greatest framing stream actual)
      (frames : Frames framing stream body) : Delivers greatest framing stream (.ok body)
  | cutOff {detail} (fits : ∀ actual, ¬ Exceeds greatest framing stream actual)
      (short : ∀ body, ¬ Frames framing stream body) :
      Delivers greatest framing stream (.error (networkFailure detail))

/-- What an answer gives: its status comes first, and then its body, if it has one. -/
inductive Settles (answer : Answer) (greatest : Nat) : Except Failure (List UInt8) → Prop where
  | refused (noSuccess : ¬ (200 ≤ answer.status ∧ answer.status < 300)) :
      Settles answer greatest (.error ⟨.status answer.status, statusText answer.status⟩)
  | bodiless (status : answer.status = 204) : Settles answer greatest (.ok [])
  | delivered {result} (success : 200 ≤ answer.status ∧ answer.status < 300)
      (hasBody : answer.status ≠ 204)
      (delivers : Delivers greatest answer.framing answer.body result) :
      Settles answer greatest result

/-- The requests of a download: the url itself, and then for every redirect where it leads. -/
structure Requests (respond : Url → Response) (url : Url) (limit : Nat) (requests : List Url) :
    Prop where
  count_le : requests.length ≤ limit + 1
  first : ∀ first ∈ requests.head?, first = url
  follow : requests.IsChain (SendsOn respond)

section Redirects

variable {respond : Url → Response} {client : Client} {url next last : Url} {count limit : Nat}
  {requests : List Url} {kind : Kind} {answer : Answer} {result : Except Kind Answer}
  {sent : Except SendFailure Received}

/-- A url sends on, or a download ends there. -/
theorem sendsOn_or_ends (respond : Url → Response) (url : Url) :
    (∃ next, SendsOn respond url next) ∨ ∃ requests result, Ends respond url requests result := by
  cases supported : isSupported url with
  | false => exact .inr ⟨_, _, .unsupported supported⟩
  | true =>
    cases ended : (respond url).outcome with
    | broken => exact .inr ⟨_, _, .broken supported ended⟩
    | silent => exact .inr ⟨_, _, .silent supported ended⟩
    | answered answer =>
      by_cases sends : ∃ next, SendsOn respond url next
      · exact .inl sends
      · exact .inr ⟨_, _, .arrived supported ended (not_exists.mp sends)⟩

/-- The redirects from a url lead to an end, or there are more of them than a limit. -/
theorem leads_cases (respond : Url → Response) (url : Url) (limit : Nat) :
    (∃ last, Leads respond (limit + 1) url last) ∨
      ∃ count last requests result, count ≤ limit ∧ Leads respond count url last ∧
        Ends respond last requests result := by
  induction limit generalizing url with
  | zero =>
    rcases sendsOn_or_ends respond url with ⟨next, sends⟩ | ⟨requests, result, ends⟩
    · exact .inl ⟨next, .on sends .here⟩
    · exact .inr ⟨0, url, requests, result, le_rfl, .here, ends⟩
  | succ limit inductionHypothesis =>
    rcases sendsOn_or_ends respond url with ⟨next, sends⟩ | ⟨requests, result, ends⟩
    · rcases inductionHypothesis next with ⟨last, leads⟩ |
        ⟨count, last, requests, result, within, leads, ends⟩
      · exact .inl ⟨last, .on sends leads⟩
      · have isWithin := Nat.succ_le_succ within
        exact .inr ⟨count + 1, last, requests, result, isWithin, .on sends leads, ends⟩
    · exact .inr ⟨0, url, requests, result, Nat.zero_le _, .here, ends⟩

/-- A client that comes back with a failure of some kind has one. -/
theorem Returns.exists_failure (returns : Returns (.error kind) sent) :
    ∃ failure : SendFailure, sent = .error failure ∧ failure.failure.kind = kind := by
  cases returns with
  | failed isKind => exact ⟨_, rfl, isKind⟩

/-- A client that comes back with an answer presents it. -/
theorem Returns.exists_received (returns : Returns (.ok answer) sent) :
    ∃ received, sent = .ok received ∧ Presents answer received := by
  cases returns with
  | answered presents => exact ⟨_, rfl, presents⟩

/-- A client that is asked for a url where a download ends comes back with that end. -/
theorem Client.Obeys.send_of_ends (obeys : client.Obeys respond)
    (ends : Ends respond url requests result) (limit : Nat) :
    (client.send limit url).1 = requests ∧ Returns result (client.send limit url).2 := by
  cases ends with
  | unsupported noScheme =>
    obtain ⟨text, sent⟩ := obeys.unsupported limit noScheme
    rw [sent]
    exact ⟨rfl, .failed rfl⟩
  | broken supported noAnswer =>
    obtain ⟨text, sent⟩ := obeys.broken limit supported noAnswer
    rw [sent]
    exact ⟨rfl, .failed rfl⟩
  | silent supported noAnswer =>
    obtain ⟨text, sent⟩ := obeys.silent limit supported noAnswer
    rw [sent]
    exact ⟨rfl, .failed rfl⟩
  | arrived supported answered stays =>
    obtain ⟨received, sent, presents⟩ := obeys.delivered limit supported answered stays
    rw [sent]
    exact ⟨rfl, .answered presents⟩

/-- A client comes back with a failure for redirects if there are more of them than it may
follow. -/
theorem Client.Obeys.send_of_leads_beyond (obeys : client.Obeys respond)
    (leads : Leads respond (limit + 1) url last) :
    ∃ text, (client.send limit url).2 = .error ⟨false, true, text⟩ := by
  induction limit generalizing url with
  | zero =>
    cases leads with
    | on sends _ =>
      obtain ⟨text, sent⟩ := obeys.refused sends
      exact ⟨text, congrArg Prod.snd sent⟩
  | succ limit inductionHypothesis =>
    cases leads with
    | on sends rest =>
      rw [obeys.followed limit sends]
      exact inductionHypothesis rest

/-- Redirects that a client may follow lead it to their end. -/
theorem Client.Obeys.send_of_ends_behind (obeys : client.Obeys respond)
    (leads : Leads respond count url last) (within : count ≤ limit)
    (ends : Ends respond last requests result) : Returns result (client.send limit url).2 := by
  induction leads generalizing limit with
  | here => exact (obeys.send_of_ends ends limit).2
  | on sends _ inductionHypothesis =>
    obtain ⟨limit, rfl⟩ : ∃ fewer, limit = fewer + 1 := ⟨limit - 1, by omega⟩
    rw [obeys.followed limit sends]
    exact inductionHypothesis (Nat.le_of_succ_le_succ within) ends

/-- An end is never a redirect too many. -/
theorem Ends.kind_ne_redirectLimit (ends : Ends respond url requests (.error kind)) :
    kind ≠ .redirectLimit := by
  cases ends <;> exact nofun

/-- An end with an answer is where the server gives this answer. -/
theorem Ends.answered (ends : Ends respond url requests (.ok answer)) :
    (respond url).outcome = .answered answer := by
  cases ends with
  | arrived _ answered => exact answered

/-- One request may be made whatever the limit is. -/
theorem requests_single (respond : Url → Response) (url : Url) (limit : Nat) :
    Requests respond url limit [url] where
  count_le := Nat.succ_le_succ (Nat.zero_le limit)
  first _ isFirst := (Option.some.inj isFirst).symm
  follow := .singleton url

/-- A request that is redirected comes before those from where it leads. -/
theorem Requests.cons (sends : SendsOn respond url next)
    (rest : Requests respond next limit requests) :
    Requests respond url (limit + 1) (url :: requests) where
  count_le := Nat.succ_le_succ rest.count_le
  first _ isFirst := (Option.some.inj isFirst).symm
  follow := List.isChain_cons.mpr
    ⟨fun second isSecond => (rest.first second isSecond).symm ▸ sends, rest.follow⟩

/-- The request for a url where a download ends is one that may be made. -/
theorem requests_of_ends (ends : Ends respond url requests result) (limit : Nat) :
    Requests respond url limit requests := by
  cases ends with
  | unsupported => exact ⟨Nat.zero_le _, nofun, .nil⟩
  | broken | silent | arrived => exact requests_single respond url limit

/-- The requests of a client are the url itself and where redirects lead from it. -/
theorem Client.Obeys.requests_send (obeys : client.Obeys respond) (url : Url) (limit : Nat) :
    Requests respond url limit (client.send limit url).1 := by
  induction limit generalizing url with
  | zero =>
    rcases sendsOn_or_ends respond url with ⟨next, sends⟩ | ⟨requests, result, ends⟩
    · obtain ⟨text, sent⟩ := obeys.refused sends
      rw [sent]
      exact requests_single respond url 0
    · rw [(obeys.send_of_ends ends 0).1]
      exact requests_of_ends ends 0
  | succ limit inductionHypothesis =>
    rcases sendsOn_or_ends respond url with ⟨next, sends⟩ | ⟨requests, result, ends⟩
    · rw [obeys.followed limit sends]
      exact .cons sends (inductionHypothesis next)
    · rw [(obeys.send_of_ends ends _).1]
      exact requests_of_ends ends _

end Redirects

section Bodies

variable {answer : Answer} {received : Received} {greatest actual : Nat} {framing : Framing}
  {stream body : List UInt8}

/-- A declared size that is allowed is not too large. -/
theorem fits_of_declared {declared : UInt64} (fits : ¬ greatest < declared.toNat) (actual : Nat) :
    ¬ Exceeds greatest (.length declared) stream actual := by
  rintro (isOver | ⟨undeclared, -⟩)
  · exact fits isOver
  · exact undeclared declared rfl

/-- Bytes without a declared size are not too many if no more of them come than are allowed. -/
theorem fits_of_undeclared (undeclared : ∀ declared, framing ≠ .length declared)
    (fits : ¬ greatest < stream.length) (actual : Nat) :
    ¬ Exceeds greatest framing stream actual := by
  rintro (_ | ⟨_, isOver⟩)
  · exact undeclared _ rfl
  · exact fits isOver

/-- A body that is not too large has no more bytes than are allowed. -/
theorem Frames.length_le (frames : Frames framing stream body)
    (fits : ∀ actual, ¬ Exceeds greatest framing stream actual) : body.length ≤ greatest := by
  cases frames with
  | @length declared _ enough =>
    rw [List.length_take]
    exact (Nat.min_le_left _ _).trans (Nat.le_of_not_lt fun isOver => fits _ (.declared isOver))
  | chunked | untilClose =>
    exact Nat.le_of_not_lt fun isOver => fits _ (.delivered nofun isOver)

/-- What an answer gives has no more bytes than are allowed. -/
theorem Settles.length_le (settles : Settles answer greatest (.ok body)) :
    body.length ≤ greatest := by
  cases settles with
  | bodiless => exact Nat.zero_le _
  | delivered _ _ delivers =>
    cases delivers with
    | whole fits frames => exact frames.length_le fits

/-- There is one size that is taken for the size of a body that is too large. -/
theorem Exceeds.unique {other : Nat} (exceeds : Exceeds greatest framing stream actual)
    (exceedsToo : Exceeds greatest framing stream other) : actual = other := by
  cases exceeds with
  | declared =>
    cases exceedsToo with
    | declared => rfl
    | delivered undeclared => exact absurd rfl (undeclared _)
  | delivered undeclared =>
    cases exceedsToo with
    | declared => exact absurd rfl (undeclared _)
    | delivered => rfl

/-- A framing marks one body in the bytes behind an answer. -/
theorem Frames.unique {other : List UInt8} (frames : Frames framing stream body)
    (framesToo : Frames framing stream other) : body = other := by
  cases frames <;> cases framesToo <;> rfl

/-- A body gives one result, up to the wording of a failure. -/
theorem Delivers.unique {result other : Except Failure (List UInt8)}
    (delivers : Delivers greatest framing stream result)
    (deliversToo : Delivers greatest framing stream other) :
    result.mapError Failure.kind = other.mapError Failure.kind := by
  cases delivers with
  | tooLarge exceeds =>
    cases deliversToo with
    | tooLarge exceedsToo => rw [exceeds.unique exceedsToo]
    | whole fits | cutOff fits => exact absurd exceeds (fits _)
  | whole fits frames =>
    cases deliversToo with
    | tooLarge exceeds => exact absurd exceeds (fits _)
    | whole _ framesToo => rw [frames.unique framesToo]
    | cutOff _ short => exact absurd frames (short _)
  | cutOff fits short =>
    cases deliversToo with
    | tooLarge exceeds => exact absurd exceeds (fits _)
    | whole _ frames => exact absurd frames (short _)
    | cutOff => rfl

/-- Status, declared size and bytes leave one result for an answer, up to the wording of a
failure. -/
theorem Settles.unique {result other : Except Failure (List UInt8)}
    (settles : Settles answer greatest result) (settlesToo : Settles answer greatest other) :
    result.mapError Failure.kind = other.mapError Failure.kind := by
  cases settles with
  | refused noSuccess =>
    cases settlesToo with
    | refused => rfl
    | bodiless status => omega
    | delivered success => exact absurd success noSuccess
  | bodiless status =>
    cases settlesToo with
    | refused noSuccess => omega
    | bodiless => rfl
    | delivered _ hasBody => exact absurd status hasBody
  | delivered success hasBody delivers =>
    cases settlesToo with
    | refused noSuccess => exact absurd success noSuccess
    | bodiless status => exact absurd status hasBody
    | delivered _ _ deliversToo => exact delivers.unique deliversToo

/-- What an answer gives is its whole body. -/
theorem Settles.whole (settles : Settles answer greatest (.ok body)) :
    answer.status = 204 ∧ body = [] ∨ Frames answer.framing answer.body body := by
  cases settles with
  | bodiless status => exact .inl ⟨status, rfl⟩
  | delivered _ _ delivers =>
    cases delivers with
    | whole _ frames => exact .inr frames

/-- What an answer gives is never a redirect too many. -/
theorem Settles.kind_ne_redirectLimit {failure : Failure}
    (settles : Settles answer greatest (.error failure)) : failure.kind ≠ .redirectLimit := by
  cases settles with
  | refused => exact nofun
  | delivered _ _ delivers => cases delivers <;> exact nofun


section Content

variable {limit : UInt64}

/-- The status decides whether an answer is a success. -/
theorem isSuccess_iff : received.isSuccess = true ↔
    200 ≤ received.status ∧ received.status < 300 := by
  unfold Received.isSuccess
  rw [Bool.and_eq_true, decide_eq_true_eq, decide_eq_true_eq]

/-- A success of a size that is known to be too large is not read. -/
theorem content_of_declared (success : received.isSuccess = true) {declared : UInt64}
    (known : received.length = some declared) (isOver : limit.toNat < declared.toNat) :
    received.content limit = .error (tooLarge limit.toNat declared.toNat) := by
  have found : received.length.filter (limit < ·) = some declared := by
    simpa [known, UInt64.lt_iff_toNat_lt] using isOver
  simp [Received.content, success, found]

/-- A success of a size that is not known to be too large is read, one byte further than allowed. -/
theorem content_of_read (success : received.isSuccess = true)
    (bounded : limit.toNat < UInt64.size - 1)
    (fits : ∀ declared ∈ received.length, ¬ limit.toNat < declared.toNat) :
    received.content limit =
      if limit.toNat < received.bytes.length then .error (tooLarge limit.toNat (limit.toNat + 1))
      else
        match received.ending with
        | .complete => .ok received.bytes
        | .failed true text => .error ⟨.timeout, text⟩
        | .failed false text => .error (networkFailure text) := by
  have nothing : received.length.filter (limit < ·) = none :=
    Option.filter_eq_none_iff.mpr fun declared known => by
      simpa [UInt64.lt_iff_toNat_lt] using fits declared known
  have further : (limit + 1).toNat = limit.toNat + 1 := by
    rw [UInt64.toNat_add]
    exact Nat.mod_eq_of_lt (Nat.add_lt_of_lt_sub bounded)
  unfold Received.content Received.read
  simp only [success, nothing, further, Nat.succ_le_iff]
  by_cases isOver : limit.toNat < received.bytes.length
  · have taken : (received.bytes.take (limit.toNat + 1)).length = limit.toNat + 1 := by
      rw [List.length_take]
      omega
    simp [isOver, ok_bind, taken]
  · rcases received.ending with _ | ⟨_ | _, text⟩ <;>
      simp [isOver, bind, Except.bind, pure, Except.pure]

/-- What can be read of a success with a body is what its framing and the bytes behind it say. -/
theorem content_delivers (success : received.isSuccess = true)
    (carries : Carries framing stream received) (bounded : limit.toNat < UInt64.size - 1) :
    Delivers limit.toNat framing stream (received.content limit) := by
  cases carries with
  | @length _ declared _ enough =>
    by_cases isOver : limit.toNat < declared.toNat
    · rw [content_of_declared success rfl isOver]
      exact .tooLarge (.declared isOver)
    · have few : ¬ limit.toNat < (stream.take declared.toNat).length := by
        rw [List.length_take]
        omega
      rw [content_of_read success bounded (by simpa using isOver), if_neg few]
      exact .whole (fits_of_declared isOver) (.length enough)
  | @shortOfLength _ declared _ text short =>
    by_cases isOver : limit.toNat < declared.toNat
    · rw [content_of_declared success rfl isOver]
      exact .tooLarge (.declared isOver)
    · have few : ¬ limit.toNat < stream.length := by omega
      rw [content_of_read success bounded (by simpa using isOver), if_neg few]
      refine .cutOff (fits_of_declared isOver) ?_
      rintro body ⟨enough⟩
      omega
  | chunked =>
    rw [content_of_read success bounded nofun]
    split
    case isTrue isOver => exact .tooLarge (.delivered nofun isOver)
    case isFalse few => exact .whole (fits_of_undeclared nofun few) .chunked
  | shortOfMark =>
    rw [content_of_read success bounded nofun]
    split
    case isTrue isOver => exact .tooLarge (.delivered nofun isOver)
    case isFalse few => exact .cutOff (fits_of_undeclared nofun few) nofun
  | untilClose =>
    rw [content_of_read success bounded nofun]
    split
    case isTrue isOver => exact .tooLarge (.delivered nofun isOver)
    case isFalse few => exact .whole (fits_of_undeclared nofun few) .untilClose

/-- What can be read of an answer is what the status, the declared size and the bytes behind it
say. -/
theorem content_settles (presents : Presents answer received)
    (bounded : limit.toNat < UInt64.size - 1) :
    Settles answer limit.toNat (received.content limit) := by
  cases isSuccess : received.isSuccess with
  | false =>
    have noSuccess := mt isSuccess_iff.mpr (Bool.eq_false_iff.mp isSuccess)
    have given : received.content limit =
        .error ⟨.status received.status, statusText received.status⟩ := by
      simp [Received.content, isSuccess]
    rw [given, presents.status]
    exact .refused (presents.status ▸ noSuccess)
  | true =>
    have success := presents.status ▸ isSuccess_iff.mp isSuccess
    by_cases bodiless : answer.status = 204
    · have ⟨known, nothing, whole⟩ := presents.bodiless bodiless
      have small : ∀ declared ∈ received.length, ¬ limit.toNat < declared.toNat := by
        rintro declared isKnown
        rcases List.mem_pair.mp known with unknown | isZero
        · cases unknown.symm.trans isKnown
        · cases isZero.symm.trans isKnown
          exact Nat.not_lt_zero _
      rw [content_of_read isSuccess bounded small, nothing, whole]
      exact .bodiless bodiless
    · exact .delivered success bodiless
        (content_delivers isSuccess (presents.carries success.1 success.2 bodiless) bounded)

end Content

end Bodies

/-- A reply from what an answer gives. -/
def replyOf (content : Except Failure (List UInt8)) : Reply :=
  content.map fun bytes => ⟨bytes.toArray⟩

/-- A reply that failed comes from a failure. -/
theorem replyOf_eq_error {content : Except Failure (List UInt8)} {failure : Failure}
    (failed : replyOf content = .error failure) : content = .error failure := by
  cases content with
  | error other => cases failed; rfl
  | ok bytes => cases failed

/-- A reply with bytes comes from these bytes. -/
theorem replyOf_eq_ok {content : Except Failure (List UInt8)} {bytes : ByteArray}
    (given : replyOf content = .ok bytes) : content = .ok bytes.data.toList := by
  cases content with
  | error failure => cases given
  | ok list => cases given; rfl

/-- What a download from a url does, where a client can be built: its requests follow redirects, it
fails for redirects exactly if there are more than the limit, and else the end of the redirects
decides. What it gives is a whole body, and not too large. -/
structure Downloads (respond : Url → Response) (limits : Limits) (url : Url)
    (requests : List Url) (reply : Reply) : Prop where
  requests : Requests respond url limits.redirects requests
  exceeded : (∃ failure, reply = .error failure ∧ failure.kind = .redirectLimit) ↔
    ∃ last, Leads respond (limits.redirects + 1) url last
  stops : (∃ last, Leads respond (limits.redirects + 1) url last) ∨
    ∃ count last requested result, count ≤ limits.redirects ∧ Leads respond count url last ∧
      Ends respond last requested result
  failed : ∀ {count last requested kind}, count ≤ limits.redirects →
    Leads respond count url last → Ends respond last requested (.error kind) →
    ∃ detail, reply = .error ⟨kind, detail⟩
  settled : ∀ {count last requested answer}, count ≤ limits.redirects →
    Leads respond count url last → Ends respond last requested (.ok answer) →
    ∃ content, Settles answer limits.size.toNat content ∧ reply = replyOf content
  whole : ∀ bytes, reply = .ok bytes → bytes.size ≤ limits.size.toNat ∧
    ∃ last answer, (respond last).outcome = .answered answer ∧
      (answer.status = 204 ∧ bytes.data.toList = [] ∨
        Frames answer.framing answer.body bytes.data.toList)

section Replies

variable {client : Client} {respond : Url → Response} {limits : Limits} {url last : Url}

/-- The reply that comes of asking a client for a url and reading what it hands over. -/
def Client.reply (client : Client) (limits : Limits) (url : Url) : Reply := do
  let received ← (client.send limits.redirects url).2.mapError SendFailure.failure
  let bytes ← received.content limits.size
  return ⟨bytes.toArray⟩

/-- A client that comes back with a failure gives that failure. -/
theorem Client.reply_of_failure {failure : SendFailure}
    (sent : (client.send limits.redirects url).2 = .error failure) :
    client.reply limits url = .error failure.failure := by
  unfold Client.reply
  rw [sent]
  rfl

/-- A client that comes back with an answer gives what can be read of it. -/
theorem Client.reply_of_received {received : Received}
    (sent : (client.send limits.redirects url).2 = .ok received) :
    client.reply limits url = replyOf (received.content limits.size) := by
  unfold Client.reply
  rw [sent, show Except.mapError SendFailure.failure (.ok received) = .ok received from rfl,
    ok_bind]
  cases received.content limits.size <;> rfl

/-- More redirects than a client may follow fail for that. -/
theorem Client.Obeys.reply_of_leads_beyond (obeys : client.Obeys respond)
    (leads : Leads respond (limits.redirects + 1) url last) :
    ∃ detail, client.reply limits url = .error ⟨.redirectLimit, detail⟩ := by
  obtain ⟨text, sent⟩ := obeys.send_of_leads_beyond leads
  exact ⟨text, Client.reply_of_failure sent⟩

section Behind

variable {count : Nat} {requested : List Url} {kind : Kind} {answer : Answer}
  (obeys : client.Obeys respond) (within : count ≤ limits.redirects)
  (leads : Leads respond count url last)

include obeys within leads

/-- Redirects to a failure fail as that does. -/
theorem Client.Obeys.reply_of_failed (ends : Ends respond last requested (.error kind)) :
    ∃ detail, client.reply limits url = .error ⟨kind, detail⟩ := by
  obtain ⟨failure, sent, rfl⟩ := (obeys.send_of_ends_behind leads within ends).exists_failure
  exact ⟨_, Client.reply_of_failure sent⟩

/-- Redirects to an answer give what that settles. -/
theorem Client.Obeys.reply_of_answered (bounded : limits.size.toNat < UInt64.size - 1)
    (ends : Ends respond last requested (.ok answer)) :
    ∃ content, Settles answer limits.size.toNat content ∧
      client.reply limits url = replyOf content := by
  obtain ⟨received, sent, presents⟩ :=
    (obeys.send_of_ends_behind leads within ends).exists_received
  exact ⟨_, content_settles presents bounded, Client.reply_of_received sent⟩

end Behind

/-- A client that obeys fails for redirects only if there are more of them than it may follow. -/
theorem Client.Obeys.leads_of_redirectLimit (obeys : client.Obeys respond)
    (bounded : limits.size.toNat < UInt64.size - 1) {failure : Failure}
    (failed : client.reply limits url = .error failure) (isLimit : failure.kind = .redirectLimit) :
    ∃ last, Leads respond (limits.redirects + 1) url last := by
  rcases leads_cases respond url limits.redirects with
    beyond | ⟨count, last, requested, result, within, leads, ends⟩
  · exact beyond
  · cases result with
    | error kind =>
      obtain ⟨detail, given⟩ := obeys.reply_of_failed within leads ends
      cases failed.symm.trans given
      exact absurd isLimit ends.kind_ne_redirectLimit
    | ok answer =>
      obtain ⟨content, settles, given⟩ := obeys.reply_of_answered within leads bounded ends
      rw [replyOf_eq_error (given.symm.trans failed)] at settles
      exact absurd isLimit settles.kind_ne_redirectLimit

/-- What a client that obeys gives is a whole body, and not too large. -/
theorem Client.Obeys.whole_of_reply (obeys : client.Obeys respond)
    (bounded : limits.size.toNat < UInt64.size - 1) {bytes : ByteArray}
    (given : client.reply limits url = .ok bytes) :
    bytes.size ≤ limits.size.toNat ∧
      ∃ last answer, (respond last).outcome = .answered answer ∧
        (answer.status = 204 ∧ bytes.data.toList = [] ∨
          Frames answer.framing answer.body bytes.data.toList) := by
  rcases leads_cases respond url limits.redirects with
    ⟨last, leads⟩ | ⟨count, last, requested, result, within, leads, ends⟩
  · obtain ⟨detail, failed⟩ := obeys.reply_of_leads_beyond leads
    cases given.symm.trans failed
  · cases result with
    | error kind =>
      obtain ⟨detail, failed⟩ := obeys.reply_of_failed within leads ends
      cases given.symm.trans failed
    | ok answer =>
      obtain ⟨content, settles, settled⟩ := obeys.reply_of_answered within leads bounded ends
      rw [replyOf_eq_ok (settled.symm.trans given)] at settles
      exact ⟨settles.length_le, last, answer, ends.answered, settles.whole⟩

/-- Asking a client that obeys for a url, and reading what it hands over, is such a download. -/
theorem Client.Obeys.downloads (obeys : client.Obeys respond)
    (bounded : limits.size.toNat < UInt64.size - 1) (url : Url) :
    Downloads respond limits url (client.send limits.redirects url).1
      (client.reply limits url) where
  requests := obeys.requests_send url limits.redirects
  stops := leads_cases respond url limits.redirects
  failed within leads ends := obeys.reply_of_failed within leads ends
  settled within leads ends := obeys.reply_of_answered within leads bounded ends
  whole _ given := obeys.whole_of_reply bounded given
  exceeded := by
    constructor
    · rintro ⟨failure, failed, isLimit⟩
      exact obeys.leads_of_redirectLimit bounded failed isLimit
    · rintro ⟨last, leads⟩
      obtain ⟨detail, failed⟩ := obeys.reply_of_leads_beyond leads
      exact ⟨_, failed, rfl⟩

end Replies

end QuizFeed.Fetch
