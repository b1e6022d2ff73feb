import QuizFeed.Feed.Image
import QuizFeed.Proofs.Url.Rereading

/-!
# Addresses of images

The address of an image is the scheme, the host and the path of a url that was read, and so it is
read as such again, whatever a hint adds to it (`parse_located`). From this follows that the
address of a usual image is its own address (`address_again`), and where a hint changes more than
the path (`keepsPlace_iff`).
-/

namespace QuizFeed.Image

open Url

variable {url : Url} {reference : String}

/-! ### The own site -/

/-- The scheme of the own site can be read again. -/
theorem isScheme_https : IsScheme "https".toList := by
  have read : readScheme "https:".toList = some ("https".toList, []) := by decide
  exact isScheme_of_readScheme read

/-- The host of the own site can be read again. -/
theorem isHost_site : IsHost .special "www.riddle.com".toList := by
  have plain : ∀ character ∈ "www.riddle.com".toList, Domain.isAscii character = true ∧
      Domain.lowerAscii character = character ∧ Domain.isForbidden character = false :=
    List.all_iff_forall_prop.mp (by decide)
  have ascii : Domain.toAscii "www.riddle.com".toList = some "www.riddle.com".toList :=
    Domain.toAscii_of_isPlain
      (fun character inside => ⟨(plain character inside).1, (plain character inside).2.1⟩)
      (fun character inside => (plain character inside).2.2) (by decide)
  have read : Host.readSpecial "www.riddle.com".toList = .ok "www.riddle.com".toList := by
    rw [Host.readSpecial_of_toAscii (fun character inside => ⟨⟨(plain character inside).1,
      (plain character inside).2.1⟩, (plain character inside).2.2⟩) ascii, if_neg (by decide),
      if_neg (by decide)]
  refine ⟨by decide, ⟨(Host.readSpecial_again read).2.1, ?_⟩, by decide⟩
  rw [Host.readAs, if_neg (by decide), read]

/-- The url of the own site can be read again. -/
theorem isRead_siteUrl : IsRead siteUrl where
  scheme := isScheme_https
  host := by
    intro host found
    cases found
    exact isHost_site
  hosted := by decide
  path := by
    intro character inside
    obtain rfl : character = '/' := by simpa [siteUrl] using inside
    exact isPathCharacter_of_notMem (by decide) (by decide)
  rooted := by decide
  whole := by decide
  resolved := by
    intro _
    refine ⟨[[]], rfl, by decide, fun segment listed => ?_⟩
    obtain rfl := List.mem_singleton.mp listed
    exact ⟨by simp [Path.IsAllowed], rfl, rfl⟩

/-- What is no absolute url is read relative to the site. -/
theorem exists_joinRelative {failure : Failure} (noUrl : Url.parse reference = .error failure)
    (joined : siteUrl.join reference = .ok url) :
    ∃ text, siteUrl.joinRelative text = .ok url := by
  unfold Url.parse at noUrl
  unfold Url.join at joined
  dsimp only at joined
  split at joined
  case h_1 => exact ⟨_, joined⟩
  case h_2 scheme rest isScheme =>
    split at joined
    case isTrue => exact ⟨_, joined⟩
    case isFalse =>
      rw [isScheme] at noUrl
      dsimp only at noUrl
      rw [noUrl] at joined
      cases joined

/-- An image is either at an absolute url or relative to the site. -/
theorem url?_cases (found : url? reference = some url) :
    Url.parse reference = .ok url ∨ (Url.parse reference = .error .relativeWithoutBase ∧
      ∃ text, siteUrl.joinRelative text = .ok url) := by
  unfold url? at found
  split at found
  case h_1 read =>
    cases found
    exact .inl read
  case h_2 relative => exact .inr ⟨relative, exists_joinRelative relative (eq_ok_of_toOption found)⟩
  case h_3 => cases found

/-- The url of a reference can be read again. -/
theorem isRead_of_url? (found : url? reference = some url) : IsRead url := by
  obtain read | ⟨_, text, joined⟩ := url?_cases found
  · exact isRead_of_parse read
  · exact isRead_of_joinRelative isRead_siteUrl (by decide) (by decide) joined

/-! ### Reading an address -/

/-- The scheme of the address of a url. -/
def schemeOf (url : Url) : List Char :=
  if url.host = none then "https".toList else url.scheme.toList

/-- The host of the address of a url. -/
def hostOf (url : Url) : List Char :=
  (url.host.getD "www.riddle.com").toList

/-- The path of the address of a url, behind its slash. -/
def pathOf (url : Url) : List Char :=
  if url.path.toList.head? = some '/' then url.path.toList.drop 1 else url.path.toList

/-- The scheme of an address can be read again. -/
theorem isScheme_schemeOf (isRead : IsRead url) : IsScheme (schemeOf url) := by
  unfold schemeOf
  split
  · exact isScheme_https
  · exact isRead.scheme

/-- The host of an address can be read again. -/
theorem isHost_hostOf (isRead : IsRead url) : IsHost (kindOf (schemeOf url)) (hostOf url) := by
  unfold schemeOf hostOf
  cases hosted : url.host with
  | none => exact isHost_site
  | some host => exact isRead.host host hosted

/-- The address of a url is put together from a scheme, a host and a path. -/
theorem toList_locate (isRead : IsRead url) (rooted : url.host = none ∨ url.path ≠ "") :
    (locate url).toList =
      schemeOf url ++ ':' :: '/' :: '/' :: (hostOf url ++ '/' :: pathOf url) := by
  unfold locate schemeOf hostOf pathOf
  cases hosted : url.host with
  | none =>
    dsimp only
    split
    case isTrue slashed =>
      obtain ⟨rest, path⟩ : ∃ rest, url.path.toList = '/' :: rest :=
        List.head?_eq_some_iff.mp slashed
      simp [site, path]
    case isFalse => simp [site]
  | some host =>
    have slashed := isRead.rooted (by simp [hosted]) (rooted.resolve_left (by simp [hosted]))
    obtain ⟨rest, path⟩ : ∃ rest, url.path.toList = '/' :: rest :=
      List.head?_eq_some_iff.mp slashed
    simp [path]

/-- What counts behind the slash of an address with a text behind it. -/
def textAfter (url : Url) (appended : String) : List Char :=
  cleanEnd (pathOf url ++ appended.toList)

/-- The address of a url is read as its scheme, its host and its path, whatever is appended. -/
theorem parse_located (isRead : IsRead url) (rooted : url.host = none ∨ url.path ≠ "")
    (appended : String) :
    Url.parse (locate url ++ appended) =
      .ok (assemble (schemeOf url)
        (authorityBefore (schemeOf url) (hostOf url) (splitPath (textAfter url appended)).1) []
        (splitPath (textAfter url appended)).1 (splitPath (textAfter url appended)).2) := by
  have text : locate url ++ appended = String.ofList (schemeOf url ++ ':' :: '/' :: '/' ::
      (hostOf url ++ '/' :: (pathOf url ++ appended.toList))) := by
    apply String.toList_inj.mp
    rw [String.toList_append, toList_locate isRead rooted, String.toList_ofList]
    simp
  rw [text]
  exact parse_placed (isScheme_schemeOf isRead) (isHost_hostOf isRead) _

/-! ### What a hint may change -/

/-- Whether an address is one with the scheme and the host of another, and else only a path. -/
def KeepsPlace (plain address : String) : Prop :=
  ∃ before after, Url.parse plain = .ok before ∧ Url.parse address = .ok after ∧ IsBare after ∧
    after.scheme = before.scheme ∧ after.host = before.host

/-- Whether an address, with a text behind it, is read without the host of the url: the path of a
file meets a drive letter. -/
def LetsHostGo (url : Url) (appended : String) : Prop :=
  kindOf (schemeOf url) = .file ∧
    Path.meetsDrive [] (Path.segments .file (splitPath (textAfter url appended)).1) = true

instance (url : Url) (appended : String) : Decidable (LetsHostGo url appended) :=
  inferInstanceAs (Decidable (_ ∧ _))

/-- An address with a text behind it has its host before the path, unless a drive letter lets it go.
-/
theorem authorityBefore_textAfter (url : Url) (appended : String) :
    authorityBefore (schemeOf url) (hostOf url) (splitPath (textAfter url appended)).1 =
      if LetsHostGo url appended then .none else .ofHost (hostOf url) :=
  rfl

/-- Only the url of a file can lose its host. -/
theorem not_letsHostGo (notFile : kindOf (schemeOf url) ≠ .file) (appended : String) :
    ¬ LetsHostGo url appended := fun gone => notFile gone.1

/-- The path of an address has characters that a path keeps. -/
theorem isPathCharacter_pathOf (isRead : IsRead url) {character : Char}
    (inside : character ∈ pathOf url) : IsPathCharacter character := by
  unfold pathOf at inside
  split at inside
  · exact isRead.path character (List.mem_of_mem_drop inside)
  · exact isRead.path character inside

/-- What is appended to an address with a path leaves the scheme, and makes a query or a fragment
exactly if it has a mark that starts one. -/
theorem parse_appended (isRead : IsRead url) (rooted : url.host = none ∨ url.path ≠ "")
    (appended : String) :
    ∃ after, Url.parse (locate url ++ appended) = .ok after ∧
      after.scheme = String.ofList (schemeOf url) ∧
      after.host =
        (if LetsHostGo url appended then none else some (String.ofList (hostOf url))) ∧
      (IsBare after ↔ '?' ∉ appended.toList ∧ '#' ∉ appended.toList) := by
  have noQuery : '?' ∉ pathOf url := fun inside => (isPathCharacter_pathOf isRead inside).1 rfl
  have noFragment : '#' ∉ pathOf url := fun inside => (isPathCharacter_pathOf isRead inside).2.1 rfl
  refine ⟨_, parse_located isRead rooted appended, rfl, ?_, ?_⟩
  · have hosted : textOrNone (hostOf url) = some (String.ofList (hostOf url)) :=
      if_neg (by simpa using (isHost_hostOf isRead).notNil)
    change textOrNone (authorityBefore _ _ _).host = _
    rw [authorityBefore_textAfter]
    split
    · rfl
    · exact hosted
  · rw [isBare_assemble_iff, textAfter, mem_cleanEnd (by decide), mem_cleanEnd (by decide)]
    simp [noQuery, noFragment]

/-- A url without a path has a scheme that is not special, and its address is scheme and host. -/
theorem locate_of_unrooted (isRead : IsRead url) (unrooted : ¬ (url.host = none ∨ url.path ≠ "")) :
    kindOf (schemeOf url) = .plain ∧
      (locate url).toList = schemeOf url ++ ':' :: '/' :: '/' :: hostOf url := by
  rw [not_or, not_not] at unrooted
  obtain ⟨host, hosted⟩ := Option.ne_none_iff_exists'.mp unrooted.1
  have plain : kindOf url.scheme.toList = .plain := by
    by_contra notPlain
    exact isRead.whole notPlain unrooted.2
  simp [schemeOf, hostOf, locate, hosted, unrooted.2, plain]

/-- The address without a hint is a scheme and a host, and a path if there is one. -/
theorem parse_plain (isRead : IsRead url) :
    ∃ before, Url.parse (locate url) = .ok before ∧
      before.scheme = String.ofList (schemeOf url) ∧
      before.host = (if LetsHostGo url "" then none else some (String.ofList (hostOf url))) ∧
      IsBare before := by
  by_cases rooted : url.host = none ∨ url.path ≠ ""
  · obtain ⟨before, read, scheme, host, bare⟩ := parse_appended isRead rooted ""
    rw [String.append_empty] at read
    exact ⟨before, read, scheme, host, bare.mpr (by simp)⟩
  · obtain ⟨plain, text⟩ := locate_of_unrooted isRead rooted
    have isHost := isHost_hostOf isRead
    have read := parse_host_only (isScheme_schemeOf isRead) (plain ▸ isHost) plain
    rw [← text, String.ofList_toList] at read
    have hosted : textOrNone (hostOf url) = some (String.ofList (hostOf url)) :=
      if_neg (by simpa using isHost.notNil)
    rw [if_neg (not_letsHostGo (by simp [plain]) "")]
    exact ⟨_, read, rfl, hosted, ⟨rfl, rfl, rfl, rfl, rfl⟩⟩

/-- Behind a url without a path, a hint is read as a part of the host or of what stands before it.
-/
theorem parse_unrooted (isRead : IsRead url) (unrooted : ¬ (url.host = none ∨ url.path ≠ ""))
    {after : Url} {hint : String} (read : Url.parse (locate url ++ ("." ++ hint)) = .ok after) :
    after.username ≠ "" ∨ after.host ≠ some (String.ofList (hostOf url)) := by
  obtain ⟨plain, text⟩ := locate_of_unrooted isRead unrooted
  have whole : locate url ++ ("." ++ hint) = String.ofList
      (schemeOf url ++ ':' :: '/' :: '/' :: (hostOf url ++ '.' :: hint.toList)) := by
    apply String.toList_inj.mp
    simp [text]
  rw [whole] at read
  exact parse_host_extended (isScheme_schemeOf isRead) (plain ▸ isHost_hostOf isRead) plain _ read

/-- An extension comes from a hint, and is put behind a dot. -/
theorem exists_of_extension {path : String} {hint : Option String}
    (something : extension path hint ≠ "") :
    ∃ text, hint = some text ∧ extension path hint = "." ++ text := by
  cases hint with
  | none => exact absurd rfl something
  | some text =>
    refine ⟨text, rfl, ?_⟩
    unfold extension at something ⊢
    dsimp only at something ⊢
    split at something
    case isTrue => exact absurd rfl something
    case isFalse adds => rw [if_neg adds]

/-- A hint on an address with a path keeps scheme and host and adds nothing but a path, unless it
starts a query or a fragment, or changes whether the host of a file goes. -/
theorem keepsPlace_appended_iff (isRead : IsRead url) (rooted : url.host = none ∨ url.path ≠ "")
    (text : String) : KeepsPlace (locate url) (locate url ++ ("." ++ text)) ↔
      '?' ∉ text.toList ∧ '#' ∉ text.toList ∧
        (LetsHostGo url ("." ++ text) ↔ LetsHostGo url "") := by
  obtain ⟨before, readBefore, scheme, host, _⟩ := parse_plain isRead
  obtain ⟨after, readAfter, sameScheme, hostAfter, bare⟩ :=
    parse_appended isRead rooted ("." ++ text)
  have marks : IsBare after ↔ '?' ∉ text.toList ∧ '#' ∉ text.toList := by
    rw [bare]
    simp
  have hosts : after.host = before.host ↔ (LetsHostGo url ("." ++ text) ↔ LetsHostGo url "") := by
    rw [hostAfter, host]
    by_cases gone : LetsHostGo url ("." ++ text) <;> by_cases goneBefore : LetsHostGo url "" <;>
      simp [gone, goneBefore]
  constructor
  · rintro ⟨before', after', readBefore', readAfter', bare', _, sameHost⟩
    obtain rfl := Except.ok.inj (readBefore.symm.trans readBefore')
    obtain rfl := Except.ok.inj (readAfter.symm.trans readAfter')
    exact ⟨(marks.mp bare').1, (marks.mp bare').2, hosts.mp sameHost⟩
  · rintro ⟨noQuery, noFragment, sameHost⟩
    exact ⟨before, after, readBefore, readAfter, marks.mpr ⟨noQuery, noFragment⟩,
      sameScheme.trans scheme.symm, hosts.mpr sameHost⟩

/-- A hint on an address without a path does not keep the host, or puts a user before it. -/
theorem not_keepsPlace_unrooted (isRead : IsRead url)
    (unrooted : ¬ (url.host = none ∨ url.path ≠ "")) (text : String) :
    ¬ KeepsPlace (locate url) (locate url ++ ("." ++ text)) := by
  obtain ⟨before, readBefore, _, host, _⟩ := parse_plain isRead
  rintro ⟨before', after, readBefore', readAfter, bare, _, sameHost⟩
  obtain rfl := Except.ok.inj (readBefore.symm.trans readBefore')
  rcases parse_unrooted isRead unrooted readAfter with named | moved
  · exact named bare.username
  · obtain ⟨plain, _⟩ := locate_of_unrooted isRead unrooted
    rw [if_neg (not_letsHostGo (by simp [plain]) "")] at host
    exact moved (sameHost.trans host)

/-- Which hints only add to the path: those that add nothing, and if there is a path to add to,
those without the marks that start a query or a fragment, which on the path of a file also do not
change whether a drive letter lets the host go. Without a path, a hint becomes part of the host. -/
theorem keepsPlace_iff {standard plain address : String} {hint : Option String}
    (found : url? standard = some url) (isPlain : Image.address standard none = some plain)
    (isAddress : Image.address standard hint = some address) :
    KeepsPlace plain address ↔ address = plain ∨
      ((url.host = none ∨ url.path ≠ "") ∧ ∀ text ∈ hint, '?' ∉ text.toList ∧ '#' ∉ text.toList ∧
        (LetsHostGo url ("." ++ text) ↔ LetsHostGo url "")) := by
  have isRead := isRead_of_url? found
  obtain rfl : locate url = plain := by simpa [Image.address, found, extension] using isPlain
  obtain rfl : locate url ++ extension url.path hint = address := by
    simpa [Image.address, found] using isAddress
  by_cases nothing : extension url.path hint = ""
  · obtain ⟨before, readBefore, _, _, bare⟩ := parse_plain isRead
    rw [nothing, String.append_empty]
    exact iff_of_true ⟨before, before, readBefore, readBefore, bare, rfl, rfl⟩ (.inl rfl)
  · obtain ⟨text, rfl, isExtension⟩ := exists_of_extension nothing
    have other : locate url ++ extension url.path (some text) ≠ locate url := by
      intro same
      have lengths := congrArg String.length same
      rw [isExtension, String.length_append, String.length_append] at lengths
      have dot : ".".length = 1 := rfl
      omega
    rw [or_iff_right other, isExtension]
    by_cases rooted : url.host = none ∨ url.path ≠ ""
    · rw [keepsPlace_appended_iff isRead rooted]
      simp [rooted]
    · exact iff_of_false (not_keepsPlace_unrooted isRead rooted text) fun both => rooted both.1

/-- A usual hint only adds to the path. -/
theorem keepsPlace_extension :
    url? "/img/x" = some { siteUrl with path := "/img/x" } ∧
      Image.address "/img/x" none = some "https://www.riddle.com/img/x" ∧
      Image.address "/img/x" (some "jpg") = some "https://www.riddle.com/img/x.jpg" ∧
      KeepsPlace "https://www.riddle.com/img/x" "https://www.riddle.com/img/x.jpg" := by
  have found : url? "/img/x" = some { siteUrl with path := "/img/x" } := by decide
  have isPlain : Image.address "/img/x" none = some "https://www.riddle.com/img/x" := by
    decide
  have isAddress : Image.address "/img/x" (some "jpg") =
      some "https://www.riddle.com/img/x.jpg" := by decide
  refine ⟨found, isPlain, isAddress, ?_⟩
  have kept (appended : String) : ¬ LetsHostGo { siteUrl with path := "/img/x" } appended :=
    not_letsHostGo (by decide) appended
  refine (keepsPlace_iff found isPlain isAddress).mpr (.inr ⟨.inr (by decide), ?_⟩)
  intro text isText
  cases isText
  exact ⟨by decide, by decide, iff_of_false (kept _) (kept _)⟩

/-- A hint with a question mark brings a query into the address. -/
theorem query_from_hint :
    Image.address "/img/x" none = some "https://www.riddle.com/img/x" ∧
      Image.address "/img/x" (some "jpg?size=2") = some "https://www.riddle.com/img/x.jpg?size=2" ∧
      ¬ KeepsPlace "https://www.riddle.com/img/x" "https://www.riddle.com/img/x.jpg?size=2" := by
  have found : url? "/img/x" = some { siteUrl with path := "/img/x" } := by decide
  have located : locate { siteUrl with path := "/img/x" } ++ ".jpg?size=2" =
      "https://www.riddle.com/img/x.jpg?size=2" := by decide
  refine ⟨by decide, by decide, ?_⟩
  rintro ⟨_, after, _, read, bare, _⟩
  obtain ⟨after', read', _, _, marks⟩ :=
    parse_appended (isRead_of_url? found) (.inr (by decide)) ".jpg?size=2"
  rw [located] at read'
  obtain rfl := Except.ok.inj (read.symm.trans read')
  exact absurd (marks.mp bare).1 (by decide)

/-! ### Addresses of addresses -/

/-- Whether a hint is made of letters and digits. -/
def IsPlainHint (hint : String) : Prop :=
  hint ≠ "" ∧ ∀ character ∈ hint.toList, character.isAlphanum = true

/-- No letter or digit is one of some other characters. -/
theorem notMem_of_isAlphanum {character : Char} {others : List Char}
    (plain : character.isAlphanum = true) (apart : others.any Char.isAlphanum = false) :
    character ∉ others := fun inside =>
  List.any_eq_false.mp apart character inside plain

/-- A letter or digit is a visible character. -/
theorem isVisible_of_isAlphanum {character : Char} (plain : character.isAlphanum = true) :
    0x20 < character.toNat ∧ character.toNat < 0x7F := by
  have codes : (decide (character.val ≥ 65 ∧ character.val ≤ 90) ||
      (decide (character.val ≥ 97) && decide (character.val ≤ 122)) ||
      (decide (character.val ≥ 48) && decide (character.val ≤ 57))) = true := plain
  simp only [Bool.or_eq_true, Bool.and_eq_true, decide_eq_true_eq, ge_iff_le,
    UInt32.le_iff_toNat_le] at codes
  change (((65 ≤ character.toNat ∧ character.toNat ≤ 90) ∨
    (97 ≤ character.toNat ∧ character.toNat ≤ 122)) ∨
    (48 ≤ character.toNat ∧ character.toNat ≤ 57)) at codes
  omega

/-- Letters and digits stand for themselves in a path. -/
theorem not_inPath_of_isAlphanum {character : Char} (plain : character.isAlphanum = true) :
    Percent.inPath character = false := by
  have visible := isVisible_of_isAlphanum plain
  have notControl : Percent.isControl character = false := by
    simp only [Percent.isControl, Bool.or_eq_false_iff, decide_eq_false_iff_not]
    omega
  simp only [Percent.inPath, Percent.inFragment, notControl, Bool.false_or, Bool.or_eq_false_iff,
    List.contains_eq_mem, decide_eq_false_iff_not]
  exact ⟨notMem_of_isAlphanum plain (by decide), notMem_of_isAlphanum plain (by decide)⟩

/-- What the address of a url with a special scheme is read as: the url without the rest. -/
theorem exists_of_special (isRead : IsRead url) (special : kindOf url.scheme.toList = .special)
    {appended : String} (resolved : Path.IsResolved .special (url.path.toList ++ appended.toList)) :
    ∃ again, Url.parse (locate url ++ appended) = .ok again ∧
      again.scheme = url.scheme ∧ again.host = url.host ∧ again.path = url.path ++ appended := by
  obtain ⟨host, hosted⟩ := Option.ne_none_iff_exists'.mp (isRead.hosted special)
  obtain ⟨rest, path⟩ := (isRead.resolved special).exists_cons
  have rooted : url.host = none ∨ url.path ≠ "" := by
    right
    intro empty
    simp [empty] at path
  have scheme : schemeOf url = url.scheme.toList := by simp [schemeOf, hosted]
  have read := parse_located isRead rooted appended
  rw [scheme, authorityBefore_of_ne_file (by simp [special])] at read
  have behind : pathOf url ++ appended.toList = (url.path.toList ++ appended.toList).drop 1 := by
    simp [pathOf, path]
  rw [textAfter, behind] at read
  have inPath (character) (inside : character ∈ (url.path.toList ++ appended.toList).drop 1) :
      IsPathCharacter character ∧ 0x20 < character.toNat := by
    rcases resolved.of_mem (List.mem_of_mem_drop inside) with rfl | plain
    · exact ⟨isPathCharacter_of_notMem (by decide) (by decide), by decide⟩
    · exact ⟨isPathCharacter_of_not_inPath plain, visible_of_not_inPath plain⟩
  rw [cleanEnd_eq_self (fun character inside => (inPath character inside).1.2.2)
      fun character last => (inPath character (List.mem_of_getLast? last)).2,
    splitPath_eq_self ⟨fun inside => (inPath _ inside).1.1 rfl,
      fun inside => (inPath _ inside).1.2.1 rfl⟩] at read
  refine ⟨_, read, String.ofList_toList, ?_, ?_⟩
  · have some : hostOf url ≠ [] := (isHost_hostOf isRead).notNil
    change textOrNone (hostOf url) = url.host
    rw [textOrNone, if_neg (by simpa using some)]
    simp [hostOf, hosted]
  · rw [path_assemble, special, resolved.read_drop (by decide), String.ofList_append]
    simp

/-- The last segment of a path is its last part. -/
theorem lastSegment_eq (path : List Char) : lastSegment path = Path.lastPart .plain path := by
  have apart : (fun character : Char => character != '/') = (!Kind.separates .plain ·) := by
    funext character
    simp [Kind.separates, bne]
  rw [lastSegment, Path.lastPart, apart]

/-- A text with a dot is what stands before its last dot, the dot, and what stands behind it. -/
theorem exists_of_dot {text : List Char} (dot : '.' ∈ text) :
    ∃ before after, text = before ++ '.' :: after ∧ '.' ∉ after := by
  obtain ⟨after, before, reversed, noDot⟩ :=
    List.eq_append_cons_of_mem (List.mem_reverse.mpr dot)
  refine ⟨before.reverse, after.reverse, ?_, by simpa using noDot⟩
  rw [← List.reverse_reverse text, reversed]
  simp

/-- A path has an extension if something without dots stands behind a dot of its last segment. -/
theorem hasExtension_iff (path : List Char) : hasExtension path = true ↔
    ∃ before after, lastSegment path = before ++ '.' :: after ∧ after ≠ [] ∧ '.' ∉ after := by
  unfold hasExtension
  dsimp only
  generalize lastSegment path = segment
  constructor
  · intro dotted
    rw [Bool.and_eq_true, List.contains_iff_mem, List.mem_reverse, bne_iff_ne] at dotted
    obtain ⟨before, after, rfl, noDot⟩ := exists_of_dot dotted.1
    refine ⟨before, after, rfl, ?_, noDot⟩
    rintro rfl
    exact dotted.2 (by simp)
  · rintro ⟨before, after, rfl, notNil, noDot⟩
    obtain ⟨front, last, rfl⟩ := (List.eq_nil_or_concat' after).resolve_left notNil
    have noDot : last ≠ '.' := by
      rintro rfl
      simp at noDot
    simp [noDot]

/-- A hint of letters and digits has no other characters. -/
theorem IsPlainHint.notMem {hint : String} {other : Char} (plain : IsPlainHint hint)
    (apart : other.isAlphanum = false) : other ∉ hint.toList := fun inside =>
  absurd (plain.2 other inside) (by simp [apart])

/-- No character of a hint separates segments. -/
theorem IsPlainHint.free {hint : String} (plain : IsPlainHint hint) (kind : Kind) :
    ∀ character ∈ '.' :: hint.toList, kind.separates character = false := by
  intro character inside
  rcases List.mem_cons.mp inside with rfl | inside
  · cases kind <;> rfl
  · have apart : character ∉ ['/', '\\'] :=
      notMem_of_isAlphanum (plain.2 character inside) (by decide)
    simp only [List.mem_cons, List.not_mem_nil, or_false, not_or] at apart
    simp [Kind.separates, apart.1, apart.2]

/-- Such a hint makes the last segment longer and leaves it the last. -/
theorem lastSegment_hint {hint : String} (plain : IsPlainHint hint) (path : List Char) :
    lastSegment (path ++ '.' :: hint.toList) = lastSegment path ++ '.' :: hint.toList := by
  rw [lastSegment_eq, lastSegment_eq]
  exact Path.lastPart_append (plain.free .plain) path

/-- A path with a hint of letters and digits has an extension, if not the hint its own. -/
theorem hasExtension_extended {path hint : String} (plain : IsPlainHint hint) :
    hasExtension (path ++ extension path (some hint)).toList = true := by
  unfold extension
  dsimp only
  split
  case isTrue none =>
    rw [String.append_empty]
    exact none.resolve_left plain.1
  case isFalse =>
    refine (hasExtension_iff _).mpr ⟨lastSegment path.toList, hint.toList, ?_, ?_, ?_⟩
    · simpa using lastSegment_hint plain path.toList
    · simpa using plain.1
    · exact plain.notMem (by decide)

/-- A path remains resolved with such a hint behind it. -/
theorem isResolved_extended {path hint : String} (plain : IsPlainHint hint)
    (resolved : Path.IsResolved .special path.toList) :
    Path.IsResolved .special (path.toList ++ (extension path (some hint)).toList) := by
  unfold extension
  dsimp only
  split
  case isTrue => simpa using resolved
  case isFalse =>
    have allowed : Path.IsAllowed .special hint.toList := fun character inside =>
      ⟨plain.free .special character (.tail _ inside),
        not_inPath_of_isAlphanum (plain.2 character inside)⟩
    simpa using resolved.extended (by simpa using plain.1)
      ⟨plain.notMem (by decide), plain.notMem (by decide)⟩ allowed

/-- The url of a reference is one of the web, if the reference is relative or is one itself. -/
theorem isWeb_of_url? (found : url? reference = some url)
    (usual : Url.parse reference = .error .relativeWithoutBase ∨
      ∃ url, Url.parse reference = .ok url ∧ (url.scheme = "http" ∨ url.scheme = "https")) :
    url.scheme = "http" ∨ url.scheme = "https" := by
  rcases url?_cases found with read | ⟨_, text, joined⟩
  · rcases usual with relative | ⟨_, read', isWeb⟩
    · rw [read] at relative
      cases relative
    · obtain rfl := Except.ok.inj (read.symm.trans read')
      exact isWeb
  · exact .inr (scheme_of_joinRelative joined)

/-- The address of an image is its own address, whatever hint comes with it, if a hint of letters
and digits made sure that it has an extension. -/
theorem address_again {standard hint address : String}
    (usual : Url.parse standard = .error .relativeWithoutBase ∨
      ∃ url, Url.parse standard = .ok url ∧ (url.scheme = "http" ∨ url.scheme = "https"))
    (plain : IsPlainHint hint) (isAddress : Image.address standard (some hint) = some address)
    (other : Option String) :
    (∃ again host, Url.parse address = .ok again ∧
        (again.scheme = "http" ∨ again.scheme = "https") ∧ again.host = some host ∧ host ≠ "" ∧
        address = again.scheme ++ "://" ++ host ++ again.path) ∧
      Image.address address other = some address := by
  obtain ⟨url, found, rfl⟩ := Option.map_eq_some_iff.mp isAddress
  have isRead := isRead_of_url? found
  have isWeb := isWeb_of_url? found usual
  have special : kindOf url.scheme.toList = .special := by
    rcases isWeb with http | https
    · rw [http]
      decide
    · rw [https]
      decide
  obtain ⟨host, hosted⟩ := Option.ne_none_iff_exists'.mp (isRead.hosted special)
  obtain ⟨again, read, scheme, sameHost, path⟩ :=
    exists_of_special isRead special (isResolved_extended plain (isRead.resolved special))
  have whole : locate url ++ extension url.path (some hint) = locate again := by
    simp only [locate, sameHost, hosted, scheme, path, String.append_assoc]
  constructor
  · refine ⟨again, host, read, scheme ▸ isWeb, sameHost.trans hosted, ?_, ?_⟩
    · rintro rfl
      exact (isRead.host "" hosted).notNil rfl
    · rw [whole, locate, sameHost, hosted]
  · have nothing : extension again.path other = "" := by
      cases other with
      | none => rfl
      | some other =>
        refine if_pos (.inr ?_)
        rw [path]
        exact hasExtension_extended plain
    rw [Image.address, url?, read]
    rw [Option.map_some, nothing, String.append_empty, whole]

/-- Without its query and with its hint, an image on the site is at its own address. -/
theorem address_again_relative :
    Url.parse "/v1.2/x?size=2" = .error .relativeWithoutBase ∧ IsPlainHint "jpg" ∧
      Image.address "/v1.2/x?size=2" (some "jpg") = some "https://www.riddle.com/v1.2/x.jpg" ∧
      Image.address "https://www.riddle.com/v1.2/x.jpg" (some "png") =
        some "https://www.riddle.com/v1.2/x.jpg" := by
  have relative : Url.parse "/v1.2/x?size=2" = .error .relativeWithoutBase := by decide
  have plain : IsPlainHint "jpg" := ⟨by decide, List.all_eq_true.mp (by decide)⟩
  have isAddress : Image.address "/v1.2/x?size=2" (some "jpg") =
      some "https://www.riddle.com/v1.2/x.jpg" := by decide
  exact ⟨relative, plain, isAddress,
    (address_again (.inl relative) plain isAddress (some "png")).2⟩

end QuizFeed.Image
