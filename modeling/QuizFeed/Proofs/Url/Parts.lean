import QuizFeed.Proofs.Results
import QuizFeed.Proofs.Url.Hosts
import QuizFeed.Proofs.Url.Paths
import QuizFeed.Url.Reader

/-!
# The parts of a url that is read

Whatever text a url is read from, each of its parts is in the form in which it is written
(`IsRead`): the scheme and the host are read from their own texts, and the path has nothing in it
that would start a query or a fragment. An absolute url is such a url (`isRead_of_parse`), and so
is one that a relative reference denotes (`isRead_of_joinRelative`).
-/

namespace QuizFeed.Url

variable {kind : Kind} {scheme text rest : List Char} {authority : Authority} {url : Url}

/-- A scheme that is read from its own text. -/
structure IsScheme (scheme : List Char) : Prop where
  visible : ∀ character ∈ scheme, 0x20 < character.toNat
  again : ∀ rest, readScheme (scheme ++ ':' :: rest) = some (scheme, rest)

/-- Whether a character may stand in a path without starting something else. -/
def IsPathCharacter (character : Char) : Prop :=
  character ≠ '?' ∧ character ≠ '#' ∧ 0x20 ≤ character.toNat

/-- A host that is there and is read from its own text. -/
structure IsHost (kind : Kind) (host : List Char) : Prop where
  notNil : host ≠ []
  settled : Host.IsSettled kind host
  remote : kind = .file → host ≠ "localhost".toList

/-- A url whose parts are in the form in which they are written. -/
structure IsRead (url : Url) : Prop where
  scheme : IsScheme url.scheme.toList
  host : ∀ host ∈ url.host, IsHost (kindOf url.scheme.toList) host.toList
  hosted : kindOf url.scheme.toList = .special → url.host ≠ none
  path : ∀ character ∈ url.path.toList, IsPathCharacter character
  rooted : url.host ≠ none → url.path ≠ "" → url.path.toList.head? = some '/'
  whole : kindOf url.scheme.toList ≠ .plain → url.path ≠ ""
  resolved : kindOf url.scheme.toList = .special → Path.IsResolved .special url.path.toList

/-- Whether a character is an ASCII letter. -/
def isLetter (character : Char) : Bool :=
  (97 ≤ character.toNat && character.toNat ≤ 122) || (65 ≤ character.toNat && character.toNat ≤ 90)

/-- In lower case, a character of a scheme still is one, and is in lower case. -/
theorem isSchemeCharacter_lowerAscii {character : Char}
    (ofScheme : isSchemeCharacter character = true) :
    let lower := Domain.lowerAscii character
    isSchemeCharacter lower = true ∧ Domain.lowerAscii lower = lower ∧ 0x20 < lower.toNat ∧
      (isLetter character = true → isLetter lower = true) := by
  have all : ∀ code < 123, isSchemeCharacter (Char.ofNat code) = true →
      let lower := Domain.lowerAscii (Char.ofNat code)
      isSchemeCharacter lower = true ∧ Domain.lowerAscii lower = lower ∧ 0x20 < lower.toNat ∧
        (isLetter (Char.ofNat code) = true → isLetter lower = true) := by decide
  have small : character.toNat < 123 := by
    by_contra large
    have apart {other : Char} (below : other.toNat < 123) : character ≠ other := by
      rintro rfl
      exact large below
    have noMark : (character == '+') = false ∧ (character == '-') = false ∧
        (character == '.') = false := by
      simp only [beq_eq_false_iff_ne]
      exact ⟨apart (by decide), apart (by decide), apart (by decide)⟩
    simp only [isSchemeCharacter, noMark.1, noMark.2.1, noMark.2.2, Bool.or_false,
      Bool.or_eq_true, Bool.and_eq_true, decide_eq_true_eq] at ofScheme
    omega
  have := all character.toNat small
  rw [Char.ofNat_toNat] at this
  exact this ofScheme

/-- A scheme is read up to its colon, in small letters. -/
theorem readScheme_of_schemeCharacters {first : Char} {others : List Char}
    (letter : isLetter first = true)
    (ofScheme : ∀ character ∈ first :: others, isSchemeCharacter character = true)
    (rest : List Char) :
    readScheme (first :: others ++ ':' :: rest) =
      some ((first :: others).map Domain.lowerAscii, rest) := by
  have taken : (first :: others ++ ':' :: rest).takeWhile isSchemeCharacter = first :: others := by
    rw [List.takeWhile_append_of_pos ofScheme, List.takeWhile_cons_of_neg (by decide),
      List.append_nil]
  rw [readScheme, taken, List.drop_left]
  exact if_pos letter

/-- A scheme that is read is read again as itself. -/
theorem isScheme_of_readScheme (read : readScheme text = some (scheme, rest)) :
    IsScheme scheme := by
  unfold readScheme at read
  dsimp only at read
  split at read
  case h_2 => cases read
  case h_1 first others _ isScheme _ =>
    split at read
    case isFalse => cases read
    case isTrue letter =>
      cases read
      have ofScheme : ∀ character ∈ first :: others, isSchemeCharacter character = true := by
        rw [← isScheme]
        exact fun character => List.mem_takeWhile_imp
      rw [isScheme]
      have lowered (character) (inside : character ∈ (first :: others).map Domain.lowerAscii) :
          isSchemeCharacter character = true ∧ Domain.lowerAscii character = character ∧
            0x20 < character.toNat := by
        obtain ⟨upper, isPart, rfl⟩ := List.mem_map.mp inside
        have facts := isSchemeCharacter_lowerAscii (ofScheme upper isPart)
        exact ⟨facts.1, facts.2.1, facts.2.2.1⟩
      refine ⟨fun character inside => (lowered character inside).2.2, fun rest => ?_⟩
      have lowerLetter : isLetter (Domain.lowerAscii first) = true :=
        (isSchemeCharacter_lowerAscii (ofScheme first List.mem_cons_self)).2.2.2 letter
      have twice : ((first :: others).map Domain.lowerAscii).map Domain.lowerAscii =
          (first :: others).map Domain.lowerAscii :=
        (List.map_congr_left fun character inside => (lowered character inside).2.1).trans
          (List.map_id' _)
      have again := readScheme_of_schemeCharacters lowerLetter
        (fun character inside => (lowered character inside).1) rest
      rw [← List.map_cons, twice] at again
      exact again

/-- A visible character is one of a path if it starts nothing else. -/
theorem isPathCharacter_of_notMem {character : Char} (visible : 0x20 ≤ character.toNat)
    (apart : character ∉ ['#', '?']) : IsPathCharacter character := by
  simp only [List.mem_cons, List.not_mem_nil, or_false, not_or] at apart
  exact ⟨apart.2, apart.1, visible⟩

/-- A character that is kept in a path is visible. -/
theorem visible_of_not_inPath {character : Char} (plain : Percent.inPath character = false) :
    0x20 < character.toNat := by
  simp only [Percent.inPath, Percent.inFragment, Percent.isControl, Bool.or_eq_false_iff,
    decide_eq_false_iff_not, List.contains_eq_mem, List.mem_cons, not_or] at plain
  have noSpace : character.toNat ≠ ' '.toNat := fun same => plain.1.2.1 (Char.toNat_inj.mp same)
  have space : ' '.toNat = 0x20 := rfl
  omega

/-- A character that is kept in a path may stand in one. -/
theorem isPathCharacter_of_not_inPath {character : Char}
    (plain : Percent.inPath character = false) : IsPathCharacter character := by
  have visible := visible_of_not_inPath plain
  simp only [Percent.inPath, Bool.or_eq_false_iff, List.contains_eq_mem, List.mem_cons, not_or,
    decide_eq_false_iff_not] at plain
  exact ⟨plain.2.2.1, plain.2.1, by omega⟩

/-- A url that is put together has the kind of its scheme. -/
theorem kindOf_assemble (scheme : List Char) (authority : Authority) (text rest : List Char) :
    kindOf (assemble scheme authority [] text rest).scheme.toList = kindOf scheme := by
  simp [assemble]

/-- The path of a url that is put together is the one that is read from its text. -/
theorem path_assemble (scheme : List Char) (authority : Authority) (text rest : List Char) :
    (assemble scheme authority [] text rest).path =
      String.ofList (Path.read (kindOf scheme) [] text) :=
  rfl

/-- Where a url has a known scheme, a known host and a path, it is one that has been read. -/
theorem isRead_assemble (isScheme : IsScheme scheme)
    (host : authority.host ≠ [] → IsHost (kindOf scheme) authority.host)
    (hosted : kindOf scheme = .special → authority.host ≠ []) (text rest : List Char) :
    IsRead (assemble scheme authority [] text rest) := by
  have kind := kindOf_assemble scheme authority text rest
  have path : (assemble scheme authority [] text rest).path.toList =
      Path.read (kindOf scheme) [] text := by
    rw [path_assemble, String.toList_ofList]
  have isHost : (assemble scheme authority [] text rest).host = textOrNone authority.host := rfl
  have notEmpty : (assemble scheme authority [] text rest).path ≠ "" := by
    intro empty
    have slashed := Path.head?_read (kindOf scheme) text
    rw [← path, empty] at slashed
    cases slashed
  refine {
    scheme := by simpa [assemble] using isScheme
    host := ?_
    hosted := ?_
    path := ?_
    rooted := fun _ _ => by rw [path]; exact Path.head?_read (kindOf scheme) text
    whole := fun _ => notEmpty
    resolved := ?_ }
  · intro written found
    rw [isHost, textOrNone] at found
    split at found
    case isTrue => cases found
    case isFalse some =>
      cases found
      rw [kind, String.toList_ofList]
      exact host (by simpa using some)
  · intro special
    rw [isHost, textOrNone, if_neg (by simpa using hosted (kind ▸ special))]
    simp
  · intro character inside
    rw [path] at inside
    rcases Path.mem_read inside with rfl | ⟨_, plain⟩
    · exact isPathCharacter_of_notMem (by decide) (by decide)
    · exact isPathCharacter_of_not_inPath plain
  · intro special
    rw [kind] at special
    rw [path, special]
    exact Path.isResolved_read (by decide) text

/-- Only its characters matter in the path of a url with no special scheme. -/
theorem IsRead.withPath (isRead : IsRead url) (plain : kindOf url.scheme.toList = .plain)
    {path : String} (characters : ∀ character ∈ path.toList, IsPathCharacter character)
    (rooted : url.host ≠ none → path ≠ "" → path.toList.head? = some '/') :
    IsRead { url with path := path } where
  scheme := isRead.scheme
  host := isRead.host
  hosted := isRead.hosted
  path := characters
  rooted := rooted
  whole := fun notPlain => absurd plain notPlain
  resolved := fun special => by simp [plain] at special

/-- Query and fragment do not matter. -/
theorem IsRead.withQuery (isRead : IsRead url) (query fragment : Option String) :
    IsRead { url with query := query, fragment := fragment } :=
  ⟨isRead.scheme, isRead.host, isRead.hosted, isRead.path, isRead.rooted, isRead.whole,
    isRead.resolved⟩

/-- A host that is read is read again as itself, and is there if the scheme is special. -/
theorem isSettled_of_readHost {host : List Char} (notFile : kind ≠ .file)
    (read : readHost kind text = .ok (host, rest)) :
    Host.IsSettled kind host ∧ (kind = .special → host ≠ []) := by
  unfold readHost at read
  dsimp only at read
  split at read
  case isTrue special =>
    split at read
    case isTrue => cases read
    case isFalse =>
      obtain ⟨_, isHost, same⟩ := map_eq_ok.mp read
      cases same
      have readAs : Host.readAs kind (hostText kind false text) = .ok host := by
        rw [Host.readAs, if_neg (by simp [special]), isHost]
      exact ⟨Host.isSettled_of_readAs readAs, fun _ => (Host.readSpecial_again isHost).1⟩
  case isFalse notSpecial =>
    obtain ⟨_, isHost, same⟩ := map_eq_ok.mp read
    cases same
    have plain : kind = .plain := by cases kind <;> simp_all
    have readAs : Host.readAs kind (hostText kind false text) = .ok host := by
      rw [Host.readAs, if_pos plain, isHost]
    exact ⟨Host.isSettled_of_readAs readAs, fun special => absurd special notSpecial⟩

/-- An authority is a user name, then a host, and then what stands at the place of a port. -/
theorem exists_of_readAuthority (read : readAuthority scheme text = .ok (authority, rest)) :
    ∃ behind port, readHost (kindOf scheme) (splitUserinfo (kindOf scheme) text).2 =
        .ok (authority.host, behind) ∧
      readPortBehind authority.host behind = .ok (port, rest) ∧
      authority.username =
        (readUserinfo ((splitUserinfo (kindOf scheme) text).1.getD [])).1 := by
  unfold readAuthority at read
  dsimp only at read
  split at read
  case isTrue => cases read
  case isFalse =>
    obtain ⟨⟨host, behind⟩, isHost, read⟩ := bind_eq_ok.mp read
    obtain ⟨⟨port, unread⟩, isPort, read⟩ := bind_eq_ok.mp read
    dsimp only at read
    split at read
    case isTrue => cases read
    case isFalse =>
      cases read
      exact ⟨behind, port, isHost, isPort, rfl⟩

/-- The host of an authority is read from its own text. -/
theorem isSettled_of_readAuthority (notFile : kindOf scheme ≠ .file)
    (read : readAuthority scheme text = .ok (authority, rest)) :
    Host.IsSettled (kindOf scheme) authority.host ∧
      (kindOf scheme = .special → authority.host ≠ []) := by
  obtain ⟨_, _, isHost, _⟩ := exists_of_readAuthority read
  exact isSettled_of_readHost notFile isHost

/-- Scheme, user and host of a url with an authority are those that were read. -/
theorem exists_of_readWithAuthority (read : readWithAuthority scheme text = .ok url) :
    ∃ authority rest, readAuthority scheme text = .ok (authority, rest) ∧
      url.scheme = String.ofList scheme ∧ url.username = String.ofList authority.username ∧
      url.host = textOrNone authority.host := by
  unfold readWithAuthority at read
  obtain ⟨⟨authority, rest⟩, isAuthority, read⟩ := bind_eq_ok.mp read
  refine ⟨authority, rest, isAuthority, ?_⟩
  dsimp only at read
  split at read
  case h_1 =>
    cases read
    exact ⟨rfl, rfl, rfl⟩
  case h_2 =>
    split at read <;> cases read <;> exact ⟨rfl, rfl, rfl⟩
  case h_3 =>
    cases read
    exact ⟨rfl, rfl, rfl⟩

/-- What is read behind the two slashes of a url that is none of a file. -/
theorem isRead_of_readWithAuthority (isScheme : IsScheme scheme) (notFile : kindOf scheme ≠ .file)
    (read : readWithAuthority scheme text = .ok url) : IsRead url := by
  unfold readWithAuthority at read
  obtain ⟨⟨authority, rest⟩, isAuthority, read⟩ := bind_eq_ok.mp read
  obtain ⟨settled, hosted⟩ := isSettled_of_readAuthority notFile isAuthority
  have assembled (text rest : List Char) : IsRead (assemble scheme authority [] text rest) :=
    isRead_assemble isScheme (fun some => ⟨some, settled, fun file => absurd file notFile⟩) hosted
      text rest
  dsimp only at read
  split at read
  case h_1 plain _ =>
    cases read
    refine (assembled [] _).withPath ?_ (by simp) fun _ notEmpty => absurd rfl notEmpty
    rw [kindOf_assemble, plain]
  case h_2 =>
    split at read <;> cases read <;> exact assembled _ _
  case h_3 =>
    cases read
    exact assembled _ _

/-- The url of a file with a host can be read again. -/
theorem isRead_of_readFileHost (isScheme : IsScheme scheme) (file : kindOf scheme = .file)
    (read : readFileHost scheme text = .ok url) : IsRead url := by
  have hostless (text rest : List Char) : IsRead (assemble scheme .none [] text rest) :=
    isRead_assemble isScheme (fun some => absurd rfl some) (by simp [file]) text rest
  unfold readFileHost at read
  dsimp only at read
  split at read
  case isTrue =>
    cases read
    exact hostless _ _
  case isFalse =>
    obtain ⟨host, isHost, read⟩ := bind_eq_ok.mp read
    split at read
    case isTrue =>
      cases read
      exact hostless _ _
    case isFalse remote =>
      cases read
      split
      case isTrue => exact hostless _ _
      case isFalse =>
        obtain ⟨notNil, written, again⟩ := Host.readSpecial_again isHost
        refine isRead_assemble isScheme (fun _ => ⟨notNil, ?_, fun _ => remote⟩) (by simp [file])
          _ _
        exact ⟨written, by rwa [Host.readAs, if_neg (by simp [file])]⟩

/-- The url of a file can be read again. -/
theorem isRead_of_readFile (isScheme : IsScheme scheme) (file : kindOf scheme = .file)
    (read : readFile scheme text = .ok url) : IsRead url := by
  have onDisk {text : List Char} (read : readFile.readLocal scheme text = .ok url) :
      IsRead url := by
    cases read
    exact isRead_assemble isScheme (fun some => absurd rfl some) (by simp [file]) _ _
  unfold readFile at read
  split at read
  · split at read
    · exact isRead_of_readFileHost isScheme file read
    · split at read
      · exact onDisk read
      · exact onDisk read
  · split at read
    · exact onDisk read
    · exact onDisk read
  · exact onDisk read

/-- A url of a plain scheme can be read again. -/
theorem isRead_of_readPlain (isScheme : IsScheme scheme) (plain : kindOf scheme = .plain)
    (read : readPlain scheme text = .ok url) : IsRead url := by
  have hostless (text rest : List Char) : IsRead (assemble scheme .none [] text rest) :=
    isRead_assemble isScheme (fun some => absurd rfl some) (by simp [plain]) text rest
  unfold readPlain at read
  split at read
  case h_1 => exact isRead_of_readWithAuthority isScheme (by simp [plain]) read
  case h_2 =>
    cases read
    exact hostless _ _
  case h_3 =>
    cases read
    refine (hostless [] _).withPath (by rw [kindOf_assemble, plain]) (fun character inside => ?_)
      fun some => absurd rfl some
    rw [String.toList_ofList] at inside
    rcases Percent.mem_encode inside with code | ⟨inside, visible⟩
    · refine isPathCharacter_of_notMem ?_ (code.notMem (by decide))
      rcases code with rfl | digit | letter
      · decide
      · omega
      · omega
    · have pathEnd := List.mem_takeWhile_imp inside
      simp only [endsPath, Bool.not_eq_true', Bool.or_eq_false_iff, beq_eq_false_iff_ne] at pathEnd
      simp only [Percent.isControl, Bool.or_eq_false_iff, decide_eq_false_iff_not] at visible
      exact ⟨pathEnd.1, pathEnd.2, by omega⟩

/-- Whatever text an absolute url is read from, its parts are in the form in which they are
written. -/
theorem isRead_of_readAfterScheme (isScheme : IsScheme scheme)
    (read : readAfterScheme scheme text = .ok url) : IsRead url := by
  unfold readAfterScheme at read
  split at read
  case h_1 file => exact isRead_of_readFile isScheme file read
  case h_2 special => exact isRead_of_readWithAuthority isScheme (by simp [special]) read
  case h_3 plain => exact isRead_of_readPlain isScheme plain read

/-- A url that is read can be read again. -/
theorem isRead_of_parse {text : String} (read : parse text = .ok url) : IsRead url := by
  unfold parse at read
  split at read
  case h_1 scheme rest isScheme =>
    exact isRead_of_readAfterScheme (isScheme_of_readScheme isScheme) read
  case h_2 => cases read

/-- A reference without a scheme is read to such a url, too, if the path of its base is the root
alone. -/
theorem isRead_of_joinRelative {base : Url} (isRead : IsRead base)
    (special : kindOf base.scheme.toList = .special) (root : base.reverseSegments.tail = [])
    (read : joinRelative base text = .ok url) : IsRead url := by
  have notFile : kindOf base.scheme.toList ≠ .file := by simp [special]
  obtain ⟨host, isHost⟩ := Option.ne_none_iff_exists'.mp (isRead.hosted special)
  have authority : base.authority.host = host.toList := by simp [Url.authority, isHost]
  have below (text rest : List Char) :
      IsRead (assemble base.scheme.toList base.authority [] text rest) := by
    refine isRead_assemble isRead.scheme (fun _ => ?_) (fun _ => ?_) text rest
    · rw [authority]
      exact isRead.host host isHost
    · rw [authority]
      exact (isRead.host host isHost).notNil
  unfold joinRelative at read
  dsimp only at read
  split at read
  case h_1 =>
    cases read
    exact isRead.withQuery _ _
  case h_2 first rest =>
    split at read
    · cases read
      exact isRead.withQuery _ _
    · split at read
      · cases read
        exact isRead.withQuery _ _
      · split at read
        · split at read
          · exact isRead_of_readWithAuthority isRead.scheme notFile read
          · split at read
            · exact isRead_of_readWithAuthority isRead.scheme notFile read
            · cases read
              exact below _ _
        · cases read
          rw [root]
          exact below _ _

/-- A reference without a scheme has that of its base. -/
theorem scheme_of_joinRelative {base : Url} (read : joinRelative base text = .ok url) :
    url.scheme = base.scheme := by
  have withAuthority {text : List Char}
      (read : readWithAuthority base.scheme.toList text = .ok url) : url.scheme = base.scheme := by
    obtain ⟨_, _, _, scheme, _⟩ := exists_of_readWithAuthority read
    rw [scheme, String.ofList_toList]
  unfold joinRelative at read
  dsimp only at read
  split at read
  case h_1 =>
    cases read
    rfl
  case h_2 first rest =>
    split at read
    · cases read
      rfl
    · split at read
      · cases read
        rfl
      · split at read
        · split at read
          · exact withAuthority read
          · split at read
            · exact withAuthority read
            · cases read
              exact String.ofList_toList
        · cases read
          exact String.ofList_toList

end QuizFeed.Url
