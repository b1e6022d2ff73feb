import QuizFeed.Proofs.Url.Parts

/-!
# Urls are read as they are put together

A scheme, a host and a path of a url that was read, put together, are read as that scheme and that
host, without user, password and port, whatever stands behind the first slash of the path
(`parse_placed`); only a file path with a drive letter lets the host go. There is a query or a
fragment exactly if the text has a mark that starts one (`isBare_assemble_iff`).
-/

namespace QuizFeed.Url

variable {kind : Kind} {scheme host front tail rest : List Char} {character : Char}

/-- What is left of the end of a text without spaces and controls at its end, and tabs and line
breaks anywhere. -/
def cleanEnd (text : List Char) : List Char :=
  ((text.reverse.dropWhile fun character => character.toNat ≤ 0x20).reverse).filter
    fun character => !(['\t', '\n', '\r'].contains character)

/-- A visible character is no tab and no line break. -/
theorem notBreak_of_visible (visible : 0x20 ≤ character.toNat) :
    ['\t', '\n', '\r'].contains character = false := by
  have all : ∀ other ∈ ['\t', '\n', '\r'], ¬ 0x20 ≤ other.toNat :=
    List.all_iff_forall_prop.mp (by decide)
  rw [List.contains_eq_mem, decide_eq_false_iff_not]
  exact fun listed => all character listed visible

/-- No spaces are dropped at the start of a visible text. -/
theorem dropWhile_visible {text : List Char}
    (visible : ∀ character ∈ text, 0x20 < character.toNat) :
    text.dropWhile (fun character => decide (character.toNat ≤ 0x20)) = text := by
  cases text with
  | nil => rfl
  | cons first others =>
    have := visible first List.mem_cons_self
    rw [List.dropWhile_cons_of_neg (by simpa using this)]

/-- The end of a text is only cleaned behind its visible beginning. -/
theorem cleanEnd_append (visible : ∀ character ∈ front, 0x20 < character.toNat)
    (tail : List Char) : cleanEnd (front ++ tail) = front ++ cleanEnd tail := by
  have trimmed : ((front ++ tail).reverse.dropWhile
      fun character => decide (character.toNat ≤ 0x20)).reverse = front ++
        (tail.reverse.dropWhile fun character => decide (character.toNat ≤ 0x20)).reverse := by
    rw [List.reverse_append, List.dropWhile_append]
    split
    case isTrue none =>
      rw [dropWhile_visible (by simpa using visible), List.isEmpty_iff.mp none]
      simp
    case isFalse => simp
  unfold cleanEnd
  rw [trimmed, List.filter_append, List.filter_eq_self.mpr]
  intro character inside
  rw [notBreak_of_visible (Nat.le_of_lt (visible character inside))]
  rfl

/-- A text is only cleaned behind its visible beginning. -/
theorem clean_append (notNil : front ≠ []) (visible : ∀ character ∈ front, 0x20 < character.toNat)
    (tail : List Char) : clean (String.ofList (front ++ tail)) = front ++ cleanEnd tail := by
  obtain ⟨first, others, rfl⟩ := List.exists_cons_of_ne_nil notNil
  have kept : (first :: others ++ tail).dropWhile
      (fun character => decide (character.toNat ≤ 0x20)) = first :: others ++ tail := by
    have := visible first List.mem_cons_self
    rw [List.cons_append, List.dropWhile_cons_of_neg (by simpa using this)]
  rw [← cleanEnd_append visible, clean, String.toList_ofList, kept]
  rfl

/-- Cleaning keeps the characters that are visible. -/
theorem mem_cleanEnd (visible : 0x20 < character.toNat) :
    character ∈ cleanEnd tail ↔ character ∈ tail := by
  unfold cleanEnd
  rw [List.mem_filter, notBreak_of_visible (Nat.le_of_lt visible), List.mem_reverse]
  constructor
  · intro found
    exact List.mem_reverse.mp (List.dropWhile_subset _ found.1)
  · intro found
    refine ⟨?_, rfl⟩
    rw [← List.mem_reverse, ← List.takeWhile_append_dropWhile
      (p := fun character : Char => decide (character.toNat ≤ 0x20)) (l := tail.reverse)] at found
    rcases List.mem_append.mp found with hidden | kept
    · have := List.mem_takeWhile_imp hidden
      simp at this
      omega
    · exact kept

/-- A text with a visible end and no controls is clean. -/
theorem cleanEnd_eq_self (plain : ∀ character ∈ tail, 0x20 ≤ character.toNat)
    (ends : ∀ character ∈ tail.getLast?, 0x20 < character.toNat) : cleanEnd tail = tail := by
  have kept : (tail.reverse.dropWhile fun character => decide (character.toNat ≤ 0x20)) =
      tail.reverse := by
    cases reversed : tail.reverse with
    | nil => rfl
    | cons last others =>
      have visible := ends last (by rw [List.getLast?_eq_head?_reverse, reversed]; rfl)
      rw [List.dropWhile_cons_of_neg (by simpa using visible)]
  rw [cleanEnd, kept, List.reverse_reverse, List.filter_eq_self]
  intro character inside
  rw [notBreak_of_visible (plain character inside)]
  rfl

/-- A character that is no delimiter does not end an authority. -/
theorem not_endsAuthority (apart : character ∉ ['#', '/', '?', '@', '\\']) :
    kind.endsAuthority character = false := by
  simp only [List.mem_cons, List.not_mem_nil, or_false, not_or] at apart
  simp [Kind.endsAuthority, Kind.separates, apart]

/-- Nothing of the text behind an authority is in its host. -/
theorem hostText_rest (ends : ∀ character ∈ rest.head?, kind.endsAuthority character = true) :
    hostText kind false rest = [] := by
  cases rest with
  | nil => rfl
  | cons first others =>
    rw [hostText, ends first rfl]
    rfl

/-- Whether a character goes on with the text of a host, inside or outside brackets. -/
def InHostText (kind : Kind) (bracketed : Bool) (character : Char) : Prop :=
  kind.endsAuthority character = false ∧ (character = ':' → bracketed = true) ∧
    character ≠ '[' ∧ character ≠ ']'

/-- The text of a host goes on as long as its characters do. -/
theorem hostText_run {bracketed : Bool} {part : List Char}
    (inside : ∀ character ∈ part, InHostText kind bracketed character) (rest : List Char) :
    hostText kind bracketed (part ++ rest) = part ++ hostText kind bracketed rest := by
  induction part with
  | nil => rfl
  | cons first others inductionHypothesis =>
    obtain ⟨⟨noEnd, noColon, noOpening, noClosing⟩, areOthers⟩ := List.forall_mem_cons.mp inside
    have goesOn : (kind.endsAuthority first || (first == ':' && !bracketed)) = false := by
      cases bracketed <;> simp_all
    rw [List.cons_append, hostText, goesOn, if_neg Bool.false_ne_true, if_neg noOpening,
      if_neg noClosing, inductionHypothesis areOthers, List.cons_append]

/-- A host is part of the text of a host that it starts. -/
theorem hostText_append (written : Host.IsWritten host) (rest : List Char) :
    hostText kind false (host ++ rest) = host ++ hostText kind false rest := by
  have noEnd {character : Char} (inHost : character ∈ host) :
      kind.endsAuthority character = false := not_endsAuthority (written.of_mem inHost).2
  rcases id written with ⟨address, isBracketed, digits⟩ | inner
  · have inAddress (character) (found : character ∈ address) : InHostText kind true character := by
      refine ⟨noEnd (by simp [isBracketed, found]), fun _ => rfl, ?_, ?_⟩ <;> rintro rfl <;>
        exact absurd (digits _ found) (by decide)
    have opening : kind.endsAuthority '[' = false := by cases kind <;> rfl
    have closing : kind.endsAuthority ']' = false := by cases kind <;> rfl
    have first : hostText kind false ('[' :: address ++ [']'] ++ rest) =
        '[' :: hostText kind true (address ++ ']' :: rest) := by
      simp [hostText, opening]
    have last : hostText kind true (']' :: rest) = ']' :: hostText kind false rest := by
      simp [hostText, closing]
    rw [isBracketed, first, hostText_run inAddress, last]
    simp
  · refine hostText_run (fun character inHost => ?_) rest
    have apart := (inner character inHost).2
    simp only [List.mem_cons, not_or] at apart
    exact ⟨noEnd inHost, fun colon => absurd colon (by tauto), by tauto, by tauto⟩

/-- The authority of a url is its host, if there is nothing else. -/
theorem takeWhile_authority (written : Host.IsWritten host)
    (ends : ∀ character ∈ rest.head?, kind.endsAuthority character = true) :
    (host ++ rest).takeWhile (!kind.endsAuthority ·) = host := by
  have inside (character) (inHost : character ∈ host) : (!kind.endsAuthority character) = true := by
    rw [not_endsAuthority (written.of_mem inHost).2]
    rfl
  rw [List.takeWhile_append_of_pos inside]
  cases rest with
  | nil => simp
  | cons first others => simp [ends first rfl]

/-- A host is not taken for the name of a user. -/
theorem splitUserinfo_append (written : Host.IsWritten host)
    (ends : ∀ character ∈ rest.head?, kind.endsAuthority character = true) :
    splitUserinfo kind (host ++ rest) = (none, host ++ rest) := by
  have noSign : host.contains '@' = false := by
    rw [List.contains_eq_mem, decide_eq_false_iff_not]
    exact fun inside => absurd (written.of_mem inside).2 (by decide)
  rw [splitUserinfo, takeWhile_authority written ends, noSign]
  rfl

/-- A host is read up to the end of the authority. -/
theorem readHost_append (isHost : IsHost kind host) (notFile : kind ≠ .file)
    (ends : ∀ character ∈ rest.head?, kind.endsAuthority character = true) :
    readHost kind (host ++ rest) = .ok (host, rest) := by
  have again := isHost.settled.again
  unfold Host.readAs at again
  unfold readHost
  dsimp only
  rw [hostText_append isHost.settled.written, hostText_rest ends, List.append_nil, List.drop_left]
  cases kind with
  | file => exact absurd rfl notFile
  | special =>
    rw [if_pos rfl, if_neg isHost.notNil]
    rw [if_neg (by decide)] at again
    rw [again]
    rfl
  | plain =>
    rw [if_neg (by decide)]
    rw [if_pos rfl] at again
    rw [again]
    rfl

/-- A host is read with nothing before and behind it. -/
theorem readAuthority_append (isHost : IsHost (kindOf scheme) host)
    (notFile : kindOf scheme ≠ .file)
    (ends : ∀ character ∈ rest.head?, (kindOf scheme).endsAuthority character = true) :
    readAuthority scheme (host ++ rest) = .ok (.ofHost host, rest) := by
  have noPort : readPortBehind host rest = .ok (none, rest) := by
    have noColon : (kindOf scheme).endsAuthority ':' = false := by cases kindOf scheme <;> rfl
    unfold readPortBehind
    split
    case h_1 => simp [noColon] at ends
    case h_2 => rfl
  unfold readAuthority
  dsimp only
  rw [splitUserinfo_append isHost.settled.written ends]
  dsimp only
  rw [if_neg (by simp), readHost_append isHost notFile ends, ok_bind]
  dsimp only
  rw [noPort, ok_bind]
  dsimp only
  rw [if_neg (by simp [isHost.notNil])]
  simp [Authority.ofHost, readUserinfo, Percent.encode]

/-- A character that does not end a path belongs to it. -/
theorem splitPath_cons (notEnd : endsPath character = false) (tail : List Char) :
    splitPath (character :: tail) = (character :: (splitPath tail).1, (splitPath tail).2) := by
  simp [splitPath, notEnd]

/-- Behind the two slashes, a host and a path are read as such. -/
theorem readWithAuthority_append (isHost : IsHost (kindOf scheme) host)
    (notFile : kindOf scheme ≠ .file) (tail : List Char) :
    readWithAuthority scheme (host ++ '/' :: tail) =
      .ok (assemble scheme (.ofHost host) [] (splitPath tail).1 (splitPath tail).2) := by
  unfold readWithAuthority
  rw [readAuthority_append isHost notFile (by simp [Kind.endsAuthority, Path.separates_slash]),
    ok_bind]
  dsimp only
  rw [splitPath_cons rfl]
  dsimp only
  split
  case h_1 none => cases none
  case h_2 slashed =>
    cases slashed
    rw [if_pos (Path.separates_slash _)]
    rfl
  case h_3 none _ => cases none

/-- No drive letter is a host. -/
theorem isDrive_eq_false (written : Host.IsWritten host) : Path.isDrive host = false := by
  fun_cases Path.isDrive host with
  | case2 => rfl
  | case1 letter mark code =>
    rcases written with ⟨address, isBracketed, _⟩ | inner
    · have isBracket : letter = '[' := (List.cons.inj isBracketed).1
      subst isBracket
      rfl
    · have apart := (inner mark (by simp)).2
      simp only [List.mem_cons, not_or] at apart
      have noMark : (mark == ':' || mark == '|') = false := by simp [apart]
      rw [noMark, Bool.and_false]

/-- The authority that a host in front of a path is read as: on the way of a file path, a drive
letter lets the host go. -/
def authorityBefore (scheme host path : List Char) : Authority :=
  if kindOf scheme = .file ∧ Path.meetsDrive [] (Path.segments .file path) = true then .none
  else .ofHost host

/-- Only a file path can let its host go. -/
theorem authorityBefore_of_ne_file (notFile : kindOf scheme ≠ .file) (path : List Char) :
    authorityBefore scheme host path = .ofHost host :=
  if_neg fun both => notFile both.1

/-- The host of a file is read up to the path, unless a drive letter lets it go. -/
theorem readFileHost_append (isHost : IsHost .file host) (file : kindOf scheme = .file)
    (tail : List Char) :
    readFileHost scheme (host ++ '/' :: tail) =
      .ok (assemble scheme (authorityBefore scheme host (splitPath tail).1) [] (splitPath tail).1
        (splitPath tail).2) := by
  have again : Host.readSpecial host = .ok host := isHost.settled.again
  have noDrive : ¬ (host = [] ∨ Path.isDrive host = true) := by
    simp [isHost.notNil, isDrive_eq_false isHost.settled.written]
  have ends : ∀ character ∈ ('/' :: tail).head?, Kind.endsAuthority .file character = true := by
    simp [Kind.endsAuthority, Path.separates_slash]
  unfold readFileHost
  dsimp only
  rw [takeWhile_authority isHost.settled.written ends, if_neg noDrive, again, ok_bind,
    List.drop_left, splitPath_cons rfl]
  dsimp only
  rw [if_neg (isHost.remote rfl)]
  simp only [authorityBefore, file, true_and, List.drop_one, List.tail_cons]
  rfl

/-- Behind the scheme, a host and a path are read as such. -/
theorem readAfterScheme_append (isHost : IsHost (kindOf scheme) host) (tail : List Char) :
    readAfterScheme scheme ('/' :: '/' :: (host ++ '/' :: tail)) =
      .ok (assemble scheme (authorityBefore scheme host (splitPath tail).1) [] (splitPath tail).1
        (splitPath tail).2) := by
  unfold readAfterScheme
  cases kind : kindOf scheme with
  | file =>
    rw [kind] at isHost
    exact readFileHost_append isHost kind tail
  | special =>
    have skipped : ('/' :: '/' :: (host ++ '/' :: tail)).dropWhile (Kind.separates .special ·) =
        host ++ '/' :: tail := by
      obtain ⟨first, others, rfl⟩ := List.exists_cons_of_ne_nil isHost.notNil
      have apart := (isHost.settled.written.of_mem List.mem_cons_self).2
      simp only [List.mem_cons, List.not_mem_nil, or_false, not_or] at apart
      simp [Kind.separates, apart]
    dsimp only
    rw [skipped, authorityBefore_of_ne_file (by simp [kind])]
    exact readWithAuthority_append isHost (by simp [kind]) tail
  | plain =>
    dsimp only
    rw [authorityBefore_of_ne_file (by simp [kind])]
    exact readWithAuthority_append isHost (by simp [kind]) tail

/-- A scheme and a host are clean. -/
theorem clean_place (isScheme : IsScheme scheme) (isHost : IsHost kind host) (tail : List Char) :
    clean (String.ofList (scheme ++ ':' :: '/' :: '/' :: (host ++ tail))) =
      scheme ++ ':' :: '/' :: '/' :: (host ++ cleanEnd tail) := by
  have visible : ∀ character ∈ scheme ++ ':' :: '/' :: '/' :: host, 0x20 < character.toNat := by
    intro character inside
    simp only [List.mem_append, List.mem_cons] at inside
    rcases inside with inScheme | rfl | rfl | rfl | inHost
    · exact isScheme.visible character inScheme
    · decide
    · decide
    · decide
    · exact (isHost.settled.written.of_mem inHost).1
  simpa using clean_append (by simp) visible tail

/-- A scheme, a host and a path that are put together are read as such. -/
theorem parse_placed (isScheme : IsScheme scheme) (isHost : IsHost (kindOf scheme) host)
    (tail : List Char) :
    parse (String.ofList (scheme ++ ':' :: '/' :: '/' :: (host ++ '/' :: tail))) =
      .ok (assemble scheme (authorityBefore scheme host (splitPath (cleanEnd tail)).1) []
        (splitPath (cleanEnd tail)).1 (splitPath (cleanEnd tail)).2) := by
  have slashed : cleanEnd (['/'] ++ tail) = ['/'] ++ cleanEnd tail :=
    cleanEnd_append (List.forall_mem_singleton.mpr (by decide)) tail
  rw [List.singleton_append, List.singleton_append] at slashed
  unfold parse
  rw [clean_place isScheme isHost, slashed, isScheme.again]
  exact readAfterScheme_append isHost (cleanEnd tail)

/-! ### A host with more text behind it -/

/-- What stands before an `@` in an authority starts as the authority does. -/
theorem exists_of_splitUserinfo {first : Char} {others rest user : List Char}
    (inside : kind.endsAuthority first = false) (noSign : first ≠ '@')
    (split : splitUserinfo kind (first :: others) = (some user, rest)) :
    ∃ more, user = first :: more := by
  unfold splitUserinfo at split
  rw [List.takeWhile_cons_of_pos (by simp [inside])] at split
  generalize others.takeWhile (!kind.endsAuthority ·) = authority at split
  dsimp only at split
  split at split
  case isFalse => cases split
  case isTrue hasSign =>
    have sign : '@' ∈ authority := by
      simpa [noSign.symm] using hasSign
    have short : (authority.reverse.takeWhile (· != '@')).length < authority.length := by
      by_contra long
      have whole := (List.takeWhile_prefix (· != '@') (l := authority.reverse)).eq_of_length_le
        (by simpa using long)
      have := List.takeWhile_eq_self_iff.mp whole '@' (List.mem_reverse.mpr sign)
      simp at this
    have behind : ((first :: authority).reverse.takeWhile (· != '@')) =
        authority.reverse.takeWhile (· != '@') := by
      rw [List.reverse_cons, List.takeWhile_append, if_neg (by simpa using Nat.ne_of_lt short)]
    obtain ⟨length, isLength⟩ : ∃ length, authority.length + 1 -
        (authority.reverse.takeWhile (· != '@')).length - 1 = length + 1 :=
      ⟨authority.length - (authority.reverse.takeWhile (· != '@')).length - 1, by omega⟩
    have isUser := congrArg Prod.fst split
    rw [behind, List.length_cons, isLength] at isUser
    cases isUser
    exact ⟨_, rfl⟩

/-- A text without a user is all host. -/
theorem splitUserinfo_of_none {text : List Char} (nobody : (splitUserinfo kind text).1 = none) :
    splitUserinfo kind text = (none, text) := by
  unfold splitUserinfo at nobody ⊢
  dsimp only at nobody ⊢
  split at nobody
  case isTrue => cases nobody
  case isFalse noSign => rw [if_neg noSign]

/-- A text that does not start with a colon names a user. -/
theorem readUserinfo_ne_nil {first : Char} (noColon : first ≠ ':') (more : List Char) :
    (readUserinfo (first :: more)).1 ≠ [] := by
  have named : (first :: more).takeWhile (· != ':') = first :: more.takeWhile (· != ':') :=
    List.takeWhile_cons_of_pos (by simpa using noColon)
  unfold readUserinfo
  dsimp only
  rw [named]
  split <;> exact Percent.encode_ne_nil _ (by simp)

/-- A host with a text behind it is not read as the host alone. -/
theorem readHost_extended (isHost : IsHost .plain host) (after rest : List Char) :
    readHost .plain (host ++ '.' :: after) ≠ .ok (host, rest) := by
  intro read
  have dotted : hostText .plain false ('.' :: after) = '.' :: hostText .plain false after := rfl
  unfold readHost at read
  dsimp only at read
  rw [if_neg (by decide), hostText_append isHost.settled.written, dotted] at read
  obtain ⟨found, isRead, same⟩ := map_eq_ok.mp read
  have sameHost : found = host := congrArg Prod.fst same
  rw [sameHost] at isRead
  exact Host.readPlain_extended isHost.settled.again _ isRead

/-- An authority that goes on behind a host with a dot has a user name or another host. -/
theorem readAuthority_extended {authority : Authority} (isHost : IsHost .plain host)
    (plain : kindOf scheme = .plain) {after rest : List Char}
    (read : readAuthority scheme (host ++ '.' :: after) = .ok (authority, rest)) :
    authority.username ≠ [] ∨ authority.host ≠ host := by
  obtain ⟨first, others, isFirst⟩ := List.exists_cons_of_ne_nil isHost.notNil
  have apart := (isHost.settled.written.of_mem (isFirst ▸ List.mem_cons_self)).2
  have inside : Kind.endsAuthority .plain first = false := not_endsAuthority apart
  obtain ⟨behind, _, isHost', _, isUser⟩ := exists_of_readAuthority read
  rw [plain] at isHost' isUser
  cases user : (splitUserinfo .plain (host ++ '.' :: after)).1 with
  | some user =>
    left
    rw [isUser, user]
    rw [isFirst, List.cons_append] at user
    obtain ⟨more, rfl⟩ := exists_of_splitUserinfo inside (by simp at apart; tauto)
      (Prod.ext user rfl)
    exact readUserinfo_ne_nil (isHost.settled.written.first_ne_colon isFirst) more
  | none =>
    right
    intro same
    rw [splitUserinfo_of_none user, same] at isHost'
    exact readHost_extended isHost _ _ isHost'

/-- A url of a plain scheme with a host is read with an authority. -/
theorem parse_host (isScheme : IsScheme scheme) (isHost : IsHost .plain host)
    (plain : kindOf scheme = .plain) (tail : List Char) :
    parse (String.ofList (scheme ++ ':' :: '/' :: '/' :: (host ++ tail))) =
      readWithAuthority scheme (host ++ cleanEnd tail) := by
  unfold parse
  rw [clean_place isScheme isHost, isScheme.again]
  dsimp only
  rw [readAfterScheme, plain]
  rfl

/-- A scheme and a host alone are read as such. -/
theorem parse_host_only (isScheme : IsScheme scheme) (isHost : IsHost .plain host)
    (plain : kindOf scheme = .plain) :
    parse (String.ofList (scheme ++ ':' :: '/' :: '/' :: host)) =
      .ok { assemble scheme (.ofHost host) [] [] [] with path := "" } := by
  have read := parse_host isScheme isHost plain []
  have empty : cleanEnd [] = [] := rfl
  rw [List.append_nil] at read
  rw [read, empty, readWithAuthority, readAuthority_append (plain ▸ isHost) (by simp [plain])
    (by simp), ok_bind, plain]
  rfl

/-- With a dot and more text behind it, a host is not read as such. -/
theorem parse_host_extended {url : Url} (isScheme : IsScheme scheme) (isHost : IsHost .plain host)
    (plain : kindOf scheme = .plain) (after : List Char)
    (read : parse (String.ofList (scheme ++ ':' :: '/' :: '/' :: (host ++ '.' :: after))) =
      .ok url) : url.username ≠ "" ∨ url.host ≠ some (String.ofList host) := by
  have dotted : cleanEnd (['.'] ++ after) = ['.'] ++ cleanEnd after :=
    cleanEnd_append (List.forall_mem_singleton.mpr (by decide)) after
  rw [List.singleton_append, List.singleton_append] at dotted
  rw [parse_host isScheme isHost plain, dotted] at read
  obtain ⟨authority, rest, isAuthority, _, username, host⟩ := exists_of_readWithAuthority read
  rw [username, host]
  refine (readAuthority_extended isHost plain isAuthority).imp (fun named => ?_) fun other => ?_
  · intro empty
    exact named (by simpa using congrArg String.toList empty)
  · unfold textOrNone
    split
    · simp
    · intro same
      exact other (by simpa using congrArg String.toList (Option.some.inj same))

/-- Whether a text goes on as the host before it: nothing in it ends or separates what stands in an
authority. -/
def GoesOn (text : List Char) : Prop :=
  ∀ character ∈ text, 0x20 < character.toNat ∧
    character ∉ ['#', '/', ':', '?', '@', '[', '\\', ']']

/-- A text that goes on as a host is all in its text. -/
theorem hostText_of_goesOn {text : List Char} (goesOn : GoesOn text) :
    hostText kind false text = text := by
  have inside (character) (found : character ∈ text) : InHostText kind false character := by
    have apart := (goesOn character found).2
    simp only [List.mem_cons, List.not_mem_nil, or_false, not_or] at apart
    refine ⟨not_endsAuthority (by simp [apart]), fun colon => absurd colon ?_, ?_, ?_⟩ <;>
      simp [apart]
  simpa [hostText] using hostText_run inside []

/-- A text without an at sign names no user. -/
theorem splitUserinfo_of_notMem {text : List Char} (noSign : '@' ∉ text) :
    splitUserinfo kind text = (none, text) := by
  unfold splitUserinfo
  dsimp only
  rw [if_neg]
  intro found
  exact noSign (List.takeWhile_subset _ (List.contains_iff_mem.mp found))

/-- Nothing is left behind the authority that a host and what goes on behind it are read as. -/
theorem rest_of_readAuthority {authority : Authority} (isHost : IsHost .plain host)
    (plain : kindOf scheme = .plain) {after rest : List Char} (goesOn : GoesOn after)
    (read : readAuthority scheme (host ++ after) = .ok (authority, rest)) : rest = [] := by
  have noSign : '@' ∉ host ++ after := by
    intro inside
    rcases List.mem_append.mp inside with inHost | inAfter
    · exact absurd (isHost.settled.written.of_mem inHost).2 (by decide)
    · exact absurd (goesOn _ inAfter).2 (by decide)
  obtain ⟨behind, port, isHost', isPort, _⟩ := exists_of_readAuthority read
  rw [plain, splitUserinfo_of_notMem noSign, readHost, if_neg (by decide)] at isHost'
  dsimp only at isHost'
  rw [hostText_append isHost.settled.written, hostText_of_goesOn goesOn, List.drop_length]
    at isHost'
  obtain ⟨found, _, same⟩ := map_eq_ok.mp isHost'
  obtain rfl : behind = [] := (congrArg Prod.snd same).symm
  cases isPort
  rfl

/-- What goes on behind a host makes no path. -/
theorem path_of_goesOn {url : Url} (isScheme : IsScheme scheme) (isHost : IsHost .plain host)
    (plain : kindOf scheme = .plain) {after : List Char} (goesOn : GoesOn after)
    (read : parse (String.ofList (scheme ++ ':' :: '/' :: '/' :: (host ++ after))) = .ok url) :
    url.path = "" := by
  have isClean : cleanEnd after = after :=
    cleanEnd_eq_self (fun character inside => Nat.le_of_lt (goesOn character inside).1)
      fun character last => (goesOn character (List.mem_of_getLast? last)).1
  rw [parse_host isScheme isHost plain, isClean, readWithAuthority] at read
  obtain ⟨⟨authority, rest⟩, isAuthority, read⟩ := bind_eq_ok.mp read
  obtain rfl := rest_of_readAuthority isHost plain goesOn isAuthority
  rw [plain] at read
  cases read
  rfl

/-- A url that is a scheme, a host and a path. -/
structure IsBare (url : Url) : Prop where
  username : url.username = ""
  password : url.password = none
  port : url.port = none
  query : url.query = none
  fragment : url.fragment = none

/-- A text without query and fragment is all path. -/
theorem splitPath_eq_self (plain : '?' ∉ tail ∧ '#' ∉ tail) : splitPath tail = (tail, []) := by
  have notEnd (character) (inside : character ∈ tail) : (!endsPath character) = true := by
    simp only [endsPath, Bool.not_eq_true', Bool.or_eq_false_iff, beq_eq_false_iff_ne]
    constructor
    · rintro rfl
      exact plain.1 inside
    · rintro rfl
      exact plain.2 inside
  rw [splitPath, List.takeWhile_eq_self_iff.mpr notEnd, List.dropWhile_eq_nil_iff.mpr notEnd]

/-- A query is there where a question mark comes first. -/
theorem isSome_query (kind : Kind) (rest : List Char) :
    (readQueryAndFragment kind ('?' :: rest)).1.isSome := by
  rw [readQueryAndFragment]
  dsimp only
  split <;> rfl

/-- A query or a fragment is found exactly if there is a mark that starts one. -/
theorem readQueryAndFragment_eq_none_iff (kind : Kind) (tail : List Char) :
    readQueryAndFragment kind (splitPath tail).2 = (none, none) ↔ '?' ∉ tail ∧ '#' ∉ tail := by
  constructor
  · intro nothing
    have ends : (splitPath tail).2 = [] := by
      unfold splitPath at nothing ⊢
      cases behind : tail.dropWhile (!endsPath ·) with
      | nil => rfl
      | cons first rest =>
        have isEnd : endsPath first = true := by
          have := List.head?_dropWhile_not (!endsPath ·) tail
          simpa [behind] using this
        dsimp only at nothing
        rw [behind] at nothing
        simp only [endsPath, Bool.or_eq_true, beq_iff_eq] at isEnd
        rcases isEnd with rfl | rfl
        · have found := isSome_query kind rest
          rw [nothing] at found
          cases found
        · cases nothing
    have notEnd := List.dropWhile_eq_nil_iff.mp ends
    constructor
    · exact fun inside => absurd (notEnd '?' inside) (by decide)
    · exact fun inside => absurd (notEnd '#' inside) (by decide)
  · intro plain
    rw [splitPath_eq_self plain]
    rfl

/-- A url is bare if what stands behind its host starts neither query nor fragment. -/
theorem isBare_assemble_iff (path tail : List Char) :
    IsBare (assemble scheme (authorityBefore scheme host path) [] (splitPath tail).1
      (splitPath tail).2) ↔ '?' ∉ tail ∧ '#' ∉ tail := by
  rw [← readQueryAndFragment_eq_none_iff (kindOf scheme) tail]
  constructor
  · intro bare
    exact Prod.ext bare.query bare.fragment
  · intro nothing
    have query := congrArg Prod.fst nothing
    have fragment := congrArg Prod.snd nothing
    unfold authorityBefore
    split <;> exact ⟨rfl, rfl, rfl, query, fragment⟩

end QuizFeed.Url
