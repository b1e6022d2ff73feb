import Mathlib.Data.List.TakeWhile
import QuizFeed.Settings.Basic

/-!
# The url that a feed is loaded from

`Filled` says without an algorithm what a template becomes when a token is put in the place of every
placeholder, from left to right; `substitute` gives that text and no other (`filled_iff`). The
filter for published entries goes to the end of it. A client sends only what stands before the
first `#`, so the filter arrives unless it ends up in a fragment (`address_restricted`).
-/

namespace QuizFeed.FeedSettings

/-- Whether no placeholder of a text begins before a place. -/
def FreeUpTo (place : Nat) (text : List Char) : Prop :=
  ∀ earlier later, text = earlier ++ placeholder ++ later → place ≤ earlier.length

/-- What a template becomes with a token in the place of every placeholder; the first placeholder
is replaced first, and then those behind it. -/
inductive Filled (token : List Char) : List Char → List Char → Prop
  | done {template} (free : ¬ placeholder <:+: template) : Filled token template template
  | fill {before rest filled} (first : FreeUpTo before.length (before ++ placeholder ++ rest))
      (later : Filled token rest filled) :
      Filled token (before ++ placeholder ++ rest) (before ++ token ++ filled)

/-- Whether a client that is given a url asks for published entries only: what it sends has a
query, and the filter is one of the parameters. -/
def AsksForPublished (url : List Char) : Prop :=
  ∃ before query, url.takeWhile (· != '#') = before ++ '?' :: query ∧ '?' ∉ before ∧
    "status=published".toList ∈ query.splitOn '&'

variable {token template filled : List Char}

/-- The characters of a placeholder that are left over are skipped. -/
theorem substitute_drop (token : List Char) (skip : Nat) (text : List Char) :
    substitute token skip text = substitute token 0 (text.drop skip) := by
  induction text generalizing skip with
  | nil => simp [substitute]
  | cons character rest inductionHypothesis =>
    cases skip with
    | zero => rfl
    | succ skip => rw [substitute, inductionHypothesis, List.drop_succ_cons]

/-- A placeholder is replaced by the token, and what follows is looked at next. -/
theorem substitute_placeholder (token rest : List Char) :
    substitute token 0 (placeholder ++ rest) = token ++ substitute token 0 rest := by
  have isStart : placeholder.isPrefixOf ('%' :: (placeholder.tail ++ rest)) = true :=
    List.isPrefixOf_iff_prefix.mpr (List.prefix_append placeholder rest)
  change substitute token 0 ('%' :: (placeholder.tail ++ rest)) = _
  rw [substitute, if_pos isStart, substitute_drop]
  rfl

/-- A character that starts no placeholder is kept. -/
theorem substitute_cons {character : Char} {rest : List Char}
    (differs : ¬ placeholder <+: character :: rest) :
    substitute token 0 (character :: rest) = character :: substitute token 0 rest := by
  rw [substitute, if_neg]
  rwa [List.isPrefixOf_iff_prefix]

/-- Substitution fills what follows a text in which no placeholder begins. -/
theorem filled_substitute (token before text : List Char)
    (free : FreeUpTo before.length (before ++ text)) :
    Filled token (before ++ text) (before ++ substitute token 0 text) := by
  have positive : 0 < placeholder.length := by decide
  induction length : text.length using Nat.strongRecOn generalizing before text with
  | ind size inductionHypothesis =>
    by_cases starts : placeholder <+: text
    · obtain ⟨rest, rfl⟩ := starts
      rw [List.length_append] at length
      rw [← List.append_assoc] at free
      rw [substitute_placeholder, ← List.append_assoc, ← List.append_assoc]
      refine .fill free ?_
      exact inductionHypothesis rest.length (by omega) [] rest (fun _ _ _ => Nat.zero_le _) rfl
    · cases text with
      | nil =>
        rw [List.append_nil] at free
        rw [substitute, List.append_nil]
        refine .done ?_
        rintro ⟨earlier, later, occurs⟩
        have beyond := free earlier later occurs.symm
        have lengths := congrArg List.length occurs
        simp only [List.length_append] at lengths
        omega
      | cons character rest =>
        rw [List.length_cons] at length
        rw [substitute_cons starts, List.append_cons before character rest,
          List.append_cons before character (substitute token 0 rest)]
        refine inductionHypothesis rest.length (by omega) _ rest ?_ rfl
        intro earlier later occurs
        rw [← List.append_cons] at occurs
        have beyond := free earlier later occurs
        rw [List.length_append, List.length_singleton]
        -- A placeholder right behind `before` would be a start of the text.
        refine Nat.lt_of_le_of_ne beyond fun here => starts ?_
        rw [List.append_assoc] at occurs
        rw [(List.append_inj occurs here).2]
        exact List.prefix_append ..

/-- A template is filled in one way only. -/
theorem Filled.unique {other : List Char} (first : Filled token template filled)
    (second : Filled token template other) : filled = other := by
  induction first generalizing other with
  | done free =>
    cases second with
    | done => rfl
    | fill => exact absurd ⟨_, _, rfl⟩ free
  | @fill before rest filled isFirst later inductionHypothesis =>
    generalize same : before ++ placeholder ++ rest = text at second
    cases second with
    | done free => exact absurd ⟨_, _, same⟩ free
    | @fill before' rest' filled' isFirst' later' =>
      have lengths : before.length = before'.length :=
        Nat.le_antisymm (isFirst _ _ same) (isFirst' _ _ same.symm)
      rw [List.append_assoc, List.append_assoc] at same
      obtain ⟨rfl, tails⟩ := List.append_inj same lengths
      rw [inductionHypothesis (List.append_cancel_left tails ▸ later')]

/-- Filling a template is substituting the token. -/
theorem filled_iff : Filled token template filled ↔ filled = substitute token 0 template := by
  have substituted := filled_substitute token [] template fun _ _ _ => Nat.zero_le _
  constructor
  · intro isFilled
    exact isFilled.unique substituted
  · rintro rfl
    exact substituted

/-- A filter in a fragment is not sent. -/
theorem takeWhile_restrict_of_mem {url : List Char} (fragment : '#' ∈ url) :
    (restrict url).takeWhile (· != '#') = url.takeWhile (· != '#') := by
  unfold restrict
  rw [List.takeWhile_append, if_neg]
  intro all
  have whole := (List.takeWhile_prefix (· != '#')).eq_of_length all
  simpa using List.takeWhile_eq_self_iff.mp whole '#' fragment

/-- A filter that is not in a fragment is sent, as the last parameter. -/
theorem asksForPublished_restrict {url : List Char} (noFragment : '#' ∉ url) :
    AsksForPublished (restrict url) := by
  have sent : (restrict url).takeWhile (· != '#') = restrict url := by
    rw [List.takeWhile_eq_self_iff]
    intro character found
    rw [bne_iff_ne]
    rintro rfl
    revert found
    unfold restrict
    split <;> simp [noFragment]
  unfold AsksForPublished
  rw [sent]
  by_cases hasQuery : '?' ∈ url
  · obtain ⟨before, after, rfl, isFirst⟩ := List.eq_append_cons_of_mem hasQuery
    refine ⟨before, after ++ '&' :: "status=published".toList, ?_, isFirst, ?_⟩
    · simp [restrict]
    · rw [List.splitOn, List.splitOnP_append_cons _ _ (by rfl)]
      exact List.mem_append_right _ (by decide)
  · refine ⟨url, "status=published".toList, ?_, hasQuery, by decide⟩
    simp [restrict, hasQuery]

/-- With a usable token there is a url, which is the template with the token filled in. Where all
entries are wanted nothing is added. Otherwise the server is asked for published entries exactly if
the template with the token has no fragment, or asks for them by itself. -/
theorem address_restricted {settings : FeedSettings} {token : String}
    (usable : settings.usableToken = some token) :
    ∃ url, (∀ text, Filled token.toList settings.template.toList text ↔ text = url) ∧
      (settings.unpublished = true → settings.address = some (String.ofList url)) ∧
      (settings.unpublished = false → ∃ address, settings.address = some address ∧
        (AsksForPublished address.toList ↔ '#' ∉ url ∨ AsksForPublished url)) := by
  refine ⟨substitute token.toList 0 settings.template.toList, fun text => filled_iff, ?_, ?_⟩
  · intro all
    simp [address, usable, addressFor, all]
  · intro publishedOnly
    generalize isUrl : substitute token.toList 0 settings.template.toList = url
    refine ⟨String.ofList (restrict url), ?_, ?_⟩
    · simp [address, usable, addressFor, publishedOnly, isUrl]
    rw [String.toList_ofList]
    by_cases fragment : '#' ∈ url
    · unfold AsksForPublished
      rw [takeWhile_restrict_of_mem fragment]
      simp [fragment]
    · simp [fragment, asksForPublished_restrict fragment]

/-- A token with a question mark in a template without one. -/
theorem address_restricted_queried :
    let settings : FeedSettings := { token := some " a?b ", template := "x:/%%TOKEN%%/%%TOKEN%%" }
    settings.usableToken = some "a?b" ∧
      settings.address = some "x:/a?b/a?b&status=published" ∧
      AsksForPublished "x:/a?b/a?b&status=published".toList := by
  intro settings
  have usable : settings.usableToken = some "a?b" := by decide
  have given : settings.address = some "x:/a?b/a?b&status=published" := by decide
  obtain ⟨url, filled, -, restricted⟩ := address_restricted usable
  obtain ⟨address, again, asks⟩ := restricted rfl
  have isUrl : "x:/a?b/a?b".toList = url := (filled _).mp (filled_iff.mpr (by decide))
  cases given.symm.trans again
  refine ⟨usable, given, asks.mpr (.inl ?_)⟩
  rw [← isUrl]
  decide

/-- The filter that is appended to a template with a fragment becomes part of the fragment. -/
theorem address_with_fragment :
    let settings : FeedSettings :=
      { token := some "t", template := "http://localhost/feed/%%TOKEN%%#top" }
    settings.usableToken = some "t" ∧ settings.unpublished = false ∧
      settings.address = some "http://localhost/feed/t#top?status=published" ∧
      ¬ AsksForPublished "http://localhost/feed/t#top?status=published".toList := by
  refine ⟨by decide, rfl, by decide, ?_⟩
  rintro ⟨before, query, sent, -⟩
  have mark : '?' ∈ "http://localhost/feed/t#top?status=published".toList.takeWhile (· != '#') :=
    sent ▸ by simp
  revert mark
  decide

end QuizFeed.FeedSettings
