import Mathlib.Data.List.Forall2
import QuizFeed.Proofs.Cache.Counterparts
import QuizFeed.Proofs.Feed.Partitions
import QuizFeed.Proofs.Feed.Reports

/-!
# What is seen of tokens

Two sequences of calls for feeds, the second with other tokens that begin with the same characters,
cannot be told apart by anything but urls and keys (`calls_renamed`): when clock and network give
them the same answers, they have the same results, report the same, and leave files with the same
bytes under the names for their own tokens. The induction runs along both sequences. Their places
stay counterparts of each other, since each call finds the same under its key, and puts the same
under it (`Loads.renamed`).
-/

namespace QuizFeed

open Time

/-- Whether two lists of events give the same answers, one after the other, as long as the same kind
of question is asked. Urls may differ. -/
def Event.SameAnswers : List Event → List Event → Prop
  | .reading instant :: rest, .reading other :: others =>
    instant = other ∧ SameAnswers rest others
  | .request _ reply :: rest, .request _ other :: others =>
    reply = other ∧ SameAnswers rest others
  | _, _ => True

/-- A network that does not look at urls gives the same answers from the same state on. -/
theorem Outside.Shows.sameAnswers {ε : Type} {outside : Outside ε}
    (blind : ∀ url other state, outside.fetch url state = outside.fetch other state) {state : ε}
    {events others : List Event} (shown : outside.Shows state events)
    (shownOthers : outside.Shows state others) : Event.SameAnswers events others := by
  induction events generalizing state others with
  | nil => trivial
  | cons event rest inductionHypothesis =>
    cases others with
    | nil => cases event <;> trivial
    | cons other others =>
      cases event with
      | reading instant =>
        cases other with
        | reading =>
          obtain ⟨rfl, later⟩ := shown
          obtain ⟨rfl, laterOthers⟩ := shownOthers
          exact ⟨rfl, inductionHypothesis later laterOthers⟩
        | request => trivial
      | request url reply =>
        cases other with
        | reading => trivial
        | request asked =>
          obtain ⟨rfl, later⟩ := shown
          obtain ⟨rfl, laterOthers⟩ := shownOthers
          rw [blind asked url] at laterOthers ⊢
          exact ⟨rfl, inductionHypothesis later laterOthers⟩

/-- Whether settings ask for the same as others under a token with another name. Where it is loaded
from does not matter. -/
structure FeedSettings.IsRenamed (rename : String → String) (settings other : FeedSettings) :
    Prop where
  token : other.token.map Text.trim = (settings.token.map Text.trim).map rename
  titleStart : other.titleStart = settings.titleStart

namespace Feed

open Cache

/-- Whether tokens are given new names that are different again, and begin with the same four
characters; a token of fewer characters keeps its name. -/
structure Renames (rename : String → String) (tokens : String → Prop) : Prop where
  injective : ∀ first second, tokens first → tokens second → rename first = rename second →
    first = second
  start : ∀ token, tokens token → (rename token).toList.take 4 = token.toList.take 4

section Tokens

variable {rename : String → String} {tokens : String → Prop} {token : String}
  {settings other : FeedSettings}

/-- A renaming of some tokens is one of fewer. -/
theorem Renames.mono {fewer : String → Prop} (renames : Renames rename tokens)
    (less : ∀ token, fewer token → tokens token) : Renames rename fewer where
  injective := fun first second isFirst isSecond =>
    renames.injective first second (less first isFirst) (less second isSecond)
  start := fun token known => renames.start token (less token known)

/-- What is reported of a token does not change with its name. -/
theorem Renames.redact (renames : Renames rename tokens) (known : tokens token) :
    Log.redact (rename token) = Log.redact token := by
  unfold Log.redact
  rw [renames.start token known]

/-- A token of fewer than four characters is all of its beginning. -/
theorem Renames.eq_of_short (renames : Renames rename tokens) (known : tokens token)
    (short : token.toList.length < 4) : rename token = token := by
  have start := renames.start token known
  rw [List.take_of_length_le (l := token.toList) (by omega)] at start
  have length := congrArg List.length start
  rw [List.length_take] at length
  rw [List.take_of_length_le (by omega)] at start
  exact String.toList_inj.mp start

/-- A token is nothing but blanks exactly if its new name is. -/
theorem Renames.eq_empty_iff (renames : Renames rename tokens) (known : tokens token) :
    rename token = "" ↔ token = "" := by
  constructor
  · intro empty
    have start := renames.start token known
    rw [empty] at start
    have none := List.take_eq_nil_iff.mp start.symm
    simpa using none
  · rintro rfl
    exact renames.eq_of_short known (by decide)

/-- The usable token is renamed with the token. -/
theorem Renames.usableToken_eq (renames : Renames rename tokens)
    (known : ∀ token, settings.token.map Text.trim = some token → tokens token)
    (renamed : settings.IsRenamed rename other) :
    other.usableToken = settings.usableToken.map rename := by
  unfold FeedSettings.usableToken
  rw [renamed.token]
  cases given : settings.token.map Text.trim with
  | none => rfl
  | some token =>
    have empty := renames.eq_empty_iff (known token given)
    have blank : (rename token != "") = (token != "") := by
      rw [Bool.eq_iff_iff, bne_iff_ne, bne_iff_ne, ne_eq, empty]
    rw [Option.map_some, Option.filter_some, Option.filter_some, blank]
    split <;> rfl

end Tokens

/-- Whether keys are those of a token and of the token with its new name. -/
def AreCounterparts (rename : String → String) (tokens : String → Prop) (key other : String) :
    Prop :=
  ∃ token, tokens token ∧ key = keyOf token ∧ other = keyOf (rename token)

section Steps

variable {rename : String → String} {tokens : String → Prop} {settings other : FeedSettings}
  {contents others : Contents} {events again : List Event}
  {result answer : Except LoadFailure Feed} {put putSecond : Option (String × Snapshot)}

/-- Where the same is kept for a token as for the token with its new name, and the same answers are
given, calls for them do the same. -/
theorem Loads.renamed (first : Loads settings contents events result put)
    (second : Loads other others again answer putSecond)
    (usable : other.usableToken = settings.usableToken.map rename)
    (titles : other.titleStart = settings.titleStart)
    (same : ∀ token, settings.usableToken = some token →
      contents (keyOf token) = others (keyOf (rename token)))
    (answers : Event.SameAnswers events again) :
    events.map Event.shown = again.map Event.shown ∧ result = answer ∧
      Option.Rel (fun stored storedSecond =>
        AreCounterparts rename (settings.usableToken = some ·) stored.1 storedSecond.1 ∧
          stored.2 = storedSecond.2) put putSecond := by
  cases first with
  | unauthorised absent =>
    rw [absent] at usable
    cases second with
    | unauthorised => exact ⟨rfl, rfl, .none⟩
    | served usableSecond | failed usableSecond | unlimited usableSecond
    | downloaded usableSecond =>
      rw [usable] at usableSecond
      cases usableSecond
  | @served token _ _ own | @failed token _ _ _ own | @unlimited token _ _ _ _ own =>
    -- The same snapshot is fresh or none is, and then the same reply decides.
    rw [own] at usable
    have kept := same token own
    cases second <;> simp_all [Event.SameAnswers, IsStale, Event.shown]
  | @downloaded token _ _ _ _ _ own stale good limited =>
    rw [own] at usable
    have kept := same token own
    cases second with
    | downloaded usableSecond _ goodSecond limitedSecond =>
      obtain ⟨rfl, rfl, rfl, -⟩ := answers
      rw [good] at goodSecond
      rw [limited] at limitedSecond
      cases usable.symm.trans usableSecond
      cases goodSecond
      cases limitedSecond
      rw [titles]
      exact ⟨rfl, rfl, .some ⟨⟨token, own, rfl, rfl⟩, rfl⟩⟩
    | _ => simp_all [Event.SameAnswers, IsStale]

end Steps

section Runs

variable {ε ε' : Type} {outside : Outside ε} {outside' : Outside ε'} {place : Place}
  {rename : String → String} {tokens : String → Prop} {settings other : FeedSettings}
  {first shared : World ε} {second sharedSecond : World ε'}

/-- Calls for a token and for the token with its new name, where a place keeps the same under the
keys of the first names and of the new ones, do the same if the same answers are given, and leave
the place so. -/
theorem visit_renamed
    (mirrors : place.Mirrors (AreCounterparts rename tokens) first second)
    (known : ∀ token, settings.usableToken = some token → tokens token)
    (usable : other.usableToken = settings.usableToken.map rename)
    (titles : other.titleStart = settings.titleStart)
    (answers : Event.SameAnswers (visit outside place settings first).call.events
      (visit outside' place other second).call.events) :
    let one := visit outside place settings first
    let two := visit outside' place other second
    one.call.events.map Event.shown = two.call.events.map Event.shown ∧
      one.call.result = two.call.result ∧
      place.Mirrors (AreCounterparts rename tokens) one.after two.after := by
  intro one two
  obtain ⟨put, leaves, loads⟩ := load_place outside settings place first
  obtain ⟨placed, leavesSecond, loadsSecond⟩ := load_place outside' other place second
  obtain ⟨shown, results, stored⟩ := loads.renamed loadsSecond usable titles
    (fun token own => (mirrors.kept ⟨token, known token own, rfl, rfl⟩).contents_eq) answers
  refine ⟨shown, results, mirrors.of_leaves leaves leavesSecond ?_⟩
  cases stored with
  | none => exact .none
  | some pair =>
    obtain ⟨⟨token, own, isKey, isKeySecond⟩, same⟩ := pair
    exact .some ⟨⟨token, known token own, isKey, isKeySecond⟩, same⟩

/-- Calls that keep feeds in memory report the same of a token with its new name, if they are shown
the same. -/
theorem records_visit_renamed (renames : Renames rename tokens)
    (known : ∀ token, settings.token.map Text.trim = some token → tokens token)
    (renamed : settings.IsRenamed rename other) (same : first.records = second.records)
    (shown : (visit outside .memory settings first).call.events.map Event.shown =
      (visit outside' .memory other second).call.events.map Event.shown) :
    (visit outside .memory settings first).after.records =
      (visit outside' .memory other second).after.records := by
  dsimp only [visit, Place.store] at shown ⊢
  rw [records_load, records_load, same, renamed.titleStart, renames.usableToken_eq known renamed]
  cases usable : settings.usableToken with
  | none => rfl
  | some token =>
    have given := (FeedSettings.usableToken_eq_some_iff.mp usable).1
    rw [Option.map_some, Option.elim_some, Option.elim_some, renames.redact (known token given),
      shown]

/-- A network that does not look at urls gives calls that start from the same states the same
answers. -/
theorem sameAnswers_visits
    (blind : ∀ url other state, outside.fetch url state = outside.fetch other state)
    (attempts others : List (FeedSettings × World ε))
    (states : List.Forall₂ (fun attempt other => attempt.2.outside = other.2.outside)
      attempts others) (shared sharedSecond : World ε) :
    List.Forall₂ (fun one two => Event.SameAnswers one.call.events two.call.events)
      (visits outside place attempts shared) (visits outside place others sharedSecond) := by
  induction states generalizing shared sharedSecond with
  | nil => exact .nil
  | @cons attempt other rest more same _ inductionHypothesis =>
    refine .cons ?_ (inductionHypothesis _ _)
    have shown := Program.shows_events outside (load attempt.1 place.store)
      (place.carry attempt.2 shared)
    have shownSecond := Program.shows_events outside (load other.1 place.store)
      (place.carry other.2 sharedSecond)
    rw [place.outside_carry, same] at shown
    rw [place.outside_carry] at shownSecond
    exact shown.sameAnswers blind shownSecond

/-- The tokens that are asked for in the second of two sequences are those of the first with their
new names. -/
theorem exists_of_usable_renamed {attempts : List (FeedSettings × World ε)}
    {others : List (FeedSettings × World ε')} (renames : Renames rename tokens)
    (known : ∀ attempt ∈ attempts, ∀ token, attempt.1.token.map Text.trim = some token →
      tokens token)
    (renamed : List.Forall₂ (fun attempt other =>
      attempt.1.IsRenamed rename other.1 ∧ attempt.2.records = other.2.records) attempts others)
    {call : FeedSettings × World ε'} (member : call ∈ others) {own : String}
    (usable : call.1.usableToken = some own) :
    ∃ attempt ∈ attempts, ∃ token, attempt.1.usableToken = some token ∧ own = rename token := by
  induction renamed with
  | nil => cases member
  | @cons attempt other rest more pair _ inductionHypothesis =>
    obtain ⟨knownFirst, knownRest⟩ := List.forall_mem_cons.mp known
    rcases List.mem_cons.mp member with rfl | later
    · rw [renames.usableToken_eq knownFirst pair.1] at usable
      obtain ⟨token, usableFirst, same⟩ := Option.map_eq_some_iff.mp usable
      exact ⟨attempt, List.mem_cons_self, token, usableFirst, same.symm⟩
    · obtain ⟨found, inside, rest⟩ := inductionHypothesis knownRest later
      exact ⟨found, List.mem_cons_of_mem _ inside, rest⟩

/-- Places mirror each other if tokens that differ have keys apart, under the first names and under
the new ones. -/
theorem mirrors_of_apart
    (injective : ∀ first second, tokens first → tokens second → rename first = rename second →
      first = second)
    (takes : place.Takes (fun key => ∃ token, tokens token ∧ key = keyOf token) shared)
    (takesSecond : place.Takes (fun key => ∃ token, tokens token ∧ key = keyOf (rename token))
      sharedSecond)
    (apart : ∀ first second, tokens first → tokens second → first ≠ second →
      place.Apart (keyOf first) (keyOf second))
    (apartSecond : ∀ first second, tokens first → tokens second → rename first ≠ rename second →
      place.Apart (keyOf (rename first)) (keyOf (rename second)))
    (kept : ∀ token, tokens token →
      place.Matches (keyOf token) (keyOf (rename token)) shared sharedSecond) :
    place.Mirrors (AreCounterparts rename tokens) shared sharedSecond where
  takes := takes.mono fun key ⟨_, token, known, isKey, _⟩ => ⟨token, known, isKey⟩
  takesSecond := takesSecond.mono fun key ⟨_, token, known, _, isKey⟩ => ⟨token, known, isKey⟩
  apart_iff := by
    rintro _ _ _ _ ⟨token, known, rfl, rfl⟩ ⟨placed, knownPlaced, rfl, rfl⟩
    by_cases same : token = placed
    · subst same
      exact iff_of_false (place.not_apart_self _) (place.not_apart_self _)
    · have different : rename token ≠ rename placed :=
        fun equal => same (injective token placed known knownPlaced equal)
      exact iff_of_true (apart token placed known knownPlaced same)
        (apartSecond token placed known knownPlaced different)
  kept := by
    rintro _ _ ⟨token, known, rfl, rfl⟩
    exact kept token known

/-- The calls of two sequences, the second for the tokens with their new names, do the same where
the places that they share keep the same under the keys. -/
theorem visits_renamed {attempts : List (FeedSettings × World ε)}
    {others : List (FeedSettings × World ε')} {names : String → Prop}
    (renames : Renames rename names)
    (named : ∀ attempt ∈ attempts, ∀ token, attempt.1.token.map Text.trim = some token →
      names token)
    (known : ∀ attempt ∈ attempts, ∀ token, attempt.1.usableToken = some token → tokens token)
    (renamed : List.Forall₂ (fun attempt other =>
      attempt.1.IsRenamed rename other.1 ∧ attempt.2.records = other.2.records) attempts others)
    (mirrors : place.Mirrors (AreCounterparts rename tokens) shared sharedSecond)
    (answers : List.Forall₂ (fun one two => Event.SameAnswers one.call.events two.call.events)
      (visits outside place attempts shared) (visits outside' place others sharedSecond)) :
    List.Forall₂ (fun one two => one.call.result = two.call.result ∧
        (place = .memory → one.after.records = two.after.records) ∧
        place.Mirrors (AreCounterparts rename tokens) one.after two.after)
      (visits outside place attempts shared) (visits outside' place others sharedSecond) := by
  induction renamed generalizing shared sharedSecond with
  | nil => exact .nil
  | @cons attempt other rest more pair _ inductionHypothesis =>
    obtain ⟨renamedFirst, same⟩ := pair
    obtain ⟨namedFirst, namedRest⟩ := List.forall_mem_cons.mp named
    obtain ⟨knownFirst, knownRest⟩ := List.forall_mem_cons.mp known
    cases answers with
    | cons answersFirst answersRest =>
      have carried := mirrors.of_same (place.same_carry attempt.2 shared)
        (place.same_carry other.2 sharedSecond)
      obtain ⟨shown, results, after⟩ := visit_renamed carried knownFirst
        (renames.usableToken_eq namedFirst renamedFirst) renamedFirst.titleStart answersFirst
      refine .cons ⟨results, ?_, after⟩ (inductionHypothesis namedRest knownRest after answersRest)
      rintro rfl
      exact records_visit_renamed renames namedFirst renamedFirst same shown

end Runs

section Elsewhere

variable {ε : Type} (outside : Outside ε) (directory : Path)

/-- A call that keeps feeds in a directory changes no file but the one for its token. -/
theorem bytesAt_visit (settings : FeedSettings) (world : World ε) :
    let after := (visit outside (.files directory) settings world).after.disk
    after.destination directory = world.disk.destination directory ∧
      ∀ location, (∀ token, settings.usableToken = some token →
          location ≠ world.disk.destination directory ++ [fileName (keyOf token)]) →
        after.bytesAt location = world.disk.bytesAt location := by
  intro after
  obtain ⟨put, leaves, loads⟩ := load_place outside settings (.files directory) world
  cases leaves with
  | same held =>
    have same : after = world.disk := held.1
    rw [same]
    exact ⟨rfl, fun _ _ => rfl⟩
  | @set before key snapshot held disk =>
    have start : before.disk = world.disk := held.1
    have saved : after = ((save directory key snapshot).run outside before).2.disk := disk
    obtain ⟨token, usable, rfl⟩ := loads.key_of_put
    rw [saved, destination_save, start]
    refine ⟨rfl, fun location elsewhere => ?_⟩
    rcases bytesAt_save outside directory (keyOf token) snapshot before with same | written
    · rw [same, start]
    · rw [written, start, if_neg (elsewhere token usable)]

/-- Calls that keep feeds in a directory change no files but those for their tokens. -/
theorem bytesAt_visits (attempts : List (FeedSettings × World ε)) (shared : World ε)
    {location : Files.Location}
    (elsewhere : ∀ attempt ∈ attempts, ∀ token, attempt.1.usableToken = some token →
      location ≠ shared.disk.destination directory ++ [fileName (keyOf token)]) :
    ∀ visit ∈ visits outside (.files directory) attempts shared,
      visit.after.disk.bytesAt location = shared.disk.bytesAt location := by
  induction attempts generalizing shared with
  | nil => simp [visits]
  | cons attempt rest inductionHypothesis =>
    obtain ⟨elsewhereFirst, elsewhereRest⟩ := List.forall_mem_cons.mp elsewhere
    obtain ⟨stays, kept⟩ := bytesAt_visit outside directory attempt.1
      ((Place.files directory).carry attempt.2 shared)
    have first := kept location elsewhereFirst
    intro visit member
    rcases List.mem_cons.mp member with rfl | later
    · exact first
    · change _ = shared.disk.destination directory at stays
      rw [← stays] at elsewhereRest
      exact (inductionHypothesis _ elsewhereRest visit later).trans first

end Elsewhere

/-- Calls for feeds, and calls with other tokens that begin with the same characters, cannot be told
apart by what they do if clock and network give them the same answers. In memory they have the same
results and report the same. In a directory that can be written, in which no two keys share a
fingerprint, they have the same results and leave the same bytes in the files for their own tokens;
neither of them changes any other file. -/
theorem calls_renamed {ε ε' : Type} (outside : Outside ε) (outside' : Outside ε')
    (rename : String → String) (attempts : List (FeedSettings × World ε))
    (others : List (FeedSettings × World ε'))
    (renames : Renames rename fun token =>
      ∃ attempt ∈ attempts, attempt.1.token.map Text.trim = some token)
    (renamed : List.Forall₂ (fun attempt other =>
      attempt.1.IsRenamed rename other.1 ∧ attempt.2.records = other.2.records) attempts others)
    (shared : World ε) (sharedSecond : World ε') :
    let used := fun token => ∃ attempt ∈ attempts, attempt.1.usableToken = some token
    let alike := fun place : Place =>
      (∀ token, used token →
        place.Matches (keyOf token) (keyOf (rename token)) shared sharedSecond) ∧
      List.Forall₂ (fun one two => Event.SameAnswers one.call.events two.call.events)
        (visits outside place attempts shared) (visits outside' place others sharedSecond)
    (alike .memory →
      List.Forall₂ (fun one two =>
          one.call.result = two.call.result ∧ one.after.records = two.after.records)
        (visits outside .memory attempts shared) (visits outside' .memory others sharedSecond)) ∧
    ∀ directory, alike (.files directory) →
      Writable directory (fun key => ∃ token, used token ∧ key = keyOf token) shared.disk →
      Writable directory (fun key => ∃ token, used token ∧ key = keyOf (rename token))
        sharedSecond.disk →
      (∀ first second, used first → used second →
        fingerprint (keyOf first) = fingerprint (keyOf second) → first = second) →
      (∀ first second, used first → used second →
        fingerprint (keyOf (rename first)) = fingerprint (keyOf (rename second)) →
        rename first = rename second) →
      let calls := visits outside (.files directory) attempts shared
      let callsSecond := visits outside' (.files directory) others sharedSecond
      List.Forall₂ (fun one two => one.call.result = two.call.result ∧
          ∀ token, used token → fileBytes directory one.after.disk (keyOf token) =
            fileBytes directory two.after.disk (keyOf (rename token))) calls callsSecond ∧
      (∀ location, (∀ token, used token →
          location ≠ shared.disk.destination directory ++ [fileName (keyOf token)]) →
        ∀ one ∈ calls, one.after.disk.bytesAt location = shared.disk.bytesAt location) ∧
      ∀ location, (∀ token, used token →
          location ≠ sharedSecond.disk.destination directory ++
            [fileName (keyOf (rename token))]) →
        ∀ two ∈ callsSecond,
          two.after.disk.bytesAt location = sharedSecond.disk.bytesAt location := by
  intro used alike
  have named : ∀ attempt ∈ attempts, ∀ token, attempt.1.token.map Text.trim = some token →
      ∃ attempt ∈ attempts, attempt.1.token.map Text.trim = some token :=
    fun attempt member token given => ⟨attempt, member, given⟩
  have known : ∀ attempt ∈ attempts, ∀ token, attempt.1.usableToken = some token → used token :=
    fun attempt member token usable => ⟨attempt, member, usable⟩
  have injective := (renames.mono fun token ⟨attempt, member, usable⟩ =>
    ⟨attempt, member, (FeedSettings.usableToken_eq_some_iff.mp usable).1⟩ :
      Renames rename used).injective
  refine ⟨fun ⟨kept, answers⟩ => ?_, fun directory ⟨kept, answers⟩ writable writableSecond told
    toldSecond => ?_⟩
  · have mirrors : Place.memory.Mirrors (AreCounterparts rename used) shared sharedSecond :=
      mirrors_of_apart injective trivial trivial
        (fun _ _ _ _ different same => different (keyOf_injective same))
        (fun _ _ _ _ different same => different (keyOf_injective same)) kept
    refine (visits_renamed renames named known renamed mirrors answers).imp ?_
    rintro one two ⟨results, records, _⟩
    exact ⟨results, records rfl⟩
  · have mirrors : (Place.files directory).Mirrors (AreCounterparts rename used) shared
        sharedSecond :=
      mirrors_of_apart injective writable writableSecond
        (fun first second knownFirst knownSecond different same =>
          different (told first second knownFirst knownSecond same))
        (fun first second knownFirst knownSecond different same =>
          different (toldSecond first second knownFirst knownSecond same)) kept
    refine ⟨(visits_renamed renames named known renamed mirrors answers).imp ?_, ?_, ?_⟩
    · rintro one two ⟨results, _, after⟩
      exact ⟨results, fun token isUsed => (after.kept ⟨token, isUsed, rfl, rfl⟩).1⟩
    · exact fun location elsewhere => bytesAt_visits outside directory attempts shared
        fun attempt member token usable => elsewhere token (known attempt member token usable)
    · intro location elsewhere
      refine bytesAt_visits outside' directory others sharedSecond fun other member own usable => ?_
      obtain ⟨attempt, memberFirst, token, usableFirst, rfl⟩ :=
        exists_of_usable_renamed renames named renamed member usable
      exact elsewhere token (known attempt memberFirst token usableFirst)

/-- Three calls, two of them for one token that has another end in the second sequence, and one for
a token that is too short for another name, each with a directory of its own that is made first. -/
theorem calls_renamed_ending :
    let rename := fun token => if token = "tokenA" then "tokenZ" else token
    let shared := worldAt .epoch
    let later := worldAt ⟨29, 0, by decide⟩
    let attempts : List (FeedSettings × World Instant) :=
      [({ token := some "tokenA" }, shared), ({ token := some "abc" }, shared),
        ({ token := some " tokenA" }, later)]
    let others : List (FeedSettings × World Instant) :=
      [({ token := some "tokenZ\n" }, shared), ({ token := some "abc" }, shared),
        ({ token := some "tokenZ" }, later)]
    List.Forall₂ (fun one two =>
        one.call.result = two.call.result ∧ one.after.records = two.after.records)
      (visits emptyNetwork .memory attempts shared) (visits emptyNetwork .memory others shared) ∧
    List.Forall₂ (fun one two =>
        fileBytes ⟨"cache"⟩ one.after.disk (keyOf "tokenA") =
          fileBytes ⟨"cache"⟩ two.after.disk (keyOf (rename "tokenA")))
      (visits emptyNetwork (.files ⟨"cache"⟩) attempts shared)
      (visits emptyNetwork (.files ⟨"cache"⟩) others shared) := by
  intro rename shared later attempts others
  have trimmed : ∀ token, (∃ attempt ∈ attempts, attempt.1.token.map Text.trim = some token) →
      token = "tokenA" ∨ token = "abc" := by
    rintro token ⟨attempt, member, given⟩
    have all : ∀ attempt ∈ attempts, ∀ token ∈ attempt.1.token.map Text.trim,
        token = "tokenA" ∨ token = "abc" := by decide
    exact all attempt member token given
  have used : ∀ token, (∃ attempt ∈ attempts, attempt.1.usableToken = some token) →
      token = "tokenA" ∨ token = "abc" := by
    rintro token ⟨attempt, member, usable⟩
    exact trimmed token ⟨attempt, member, (FeedSettings.usableToken_eq_some_iff.mp usable).1⟩
  have renames : Renames rename fun token =>
      ∃ attempt ∈ attempts, attempt.1.token.map Text.trim = some token := by
    constructor
    · intro first second isFirst isSecond
      rcases trimmed first isFirst with rfl | rfl <;>
        rcases trimmed second isSecond with rfl | rfl <;> decide
    · intro token isToken
      rcases trimmed token isToken with rfl | rfl <;> decide
  have renamed : List.Forall₂ (fun attempt other =>
      attempt.1.IsRenamed rename other.1 ∧ attempt.2.records = other.2.records)
      attempts others :=
    .cons ⟨⟨by decide, rfl⟩, rfl⟩ (.cons ⟨⟨by decide, rfl⟩, rfl⟩
      (.cons ⟨⟨by decide, rfl⟩, rfl⟩ .nil))
  have answers : ∀ place : Place,
      List.Forall₂ (fun one two => Event.SameAnswers one.call.events two.call.events)
        (visits emptyNetwork place attempts shared) (visits emptyNetwork place others shared) :=
    fun place => sameAnswers_visits (fun _ _ _ => rfl) attempts others
      (.cons rfl (.cons rfl (.cons rfl .nil))) shared shared
  obtain ⟨memory, files⟩ :=
    calls_renamed emptyNetwork emptyNetwork rename attempts others renames renamed shared shared
  have absent : ∀ key, fileBytes ⟨"cache"⟩ shared.disk key = none := fun key => by
    simp [fileBytes, Files.Disk.bytesAt, shared, worldAt, Files.Disk.node?]
  have matched : ∀ key other,
      (Place.files ⟨"cache"⟩).Matches key other shared shared := fun key other =>
    ⟨(absent key).trans (absent other).symm,
      (fileContents_of_absent (absent key)).trans (fileContents_of_absent (absent other)).symm⟩
  have writable : ∀ keys : String → Prop,
      (∀ key, keys key → key ∈ ["tokenA", "tokenZ", "abc"].map keyOf) →
      Writable ⟨"cache"⟩ keys shared.disk := fun keys few =>
    writable_of_isWritable few (by decide +kernel)
  refine ⟨memory ⟨fun _ _ => rfl, answers .memory⟩, ?_⟩
  obtain ⟨bytes, _⟩ := files ⟨"cache"⟩ ⟨fun token _ => matched _ _, answers _⟩
    (writable _ <| by
      rintro key ⟨token, isUsed, rfl⟩
      rcases used token isUsed with rfl | rfl <;> decide)
    (writable _ <| by
      rintro key ⟨token, isUsed, rfl⟩
      rcases used token isUsed with rfl | rfl <;> decide)
    (fun first second isFirst isSecond => by
      rcases used first isFirst with rfl | rfl <;>
        rcases used second isSecond with rfl | rfl <;> decide +kernel)
    (fun first second isFirst isSecond => by
      rcases used first isFirst with rfl | rfl <;>
        rcases used second isSecond with rfl | rfl <;> decide +kernel)
  exact bytes.imp fun one two found => found.2 "tokenA" ⟨_, List.mem_cons_self, by decide⟩

end Feed
end QuizFeed
