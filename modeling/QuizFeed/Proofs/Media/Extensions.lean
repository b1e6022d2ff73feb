import QuizFeed.Proofs.Feed.Images
import QuizFeed.Proofs.Media.Thumbnail

/-!
# Extensions of local copies

The local copy of an image has the extension of the image's address. Where a hint was added to the
address, this is the hint, unless there is no name before it: then the address ends in a hidden
name, which has no extension (`localImage_extension`).
-/

namespace QuizFeed

open Url Image

variable {url : Url} {hint : String} {front name before after : List Char}

/-- The name at the end of the path that the address of a url has: what stands behind the last
character that separates segments there. -/
def Image.nameOf (url : Url) : List Char :=
  Url.Path.lastPart (kindOf (schemeOf url)) url.path.toList

/-- The name at the end of the address of a url, where the spaces at its end do not count. -/
def Image.finalNameOf (url : Url) : List Char :=
  Url.Path.lastPart (kindOf (schemeOf url)) (textAfter url "")

/-- A path that ends in a single name has this name. -/
theorem Path.fileName?_of_single (rooted : (front ++ '/' :: name).head? = some '/')
    (single : IsSingle (String.ofList name)) :
    (Path.mk (String.ofList (front ++ '/' :: name))).fileName? = some (String.ofList name) := by
  have noSlash := single.noSlash
  have notBlank := single.notBlank
  have notParent := single.notParent
  rw [String.toList_ofList] at noSlash notBlank notParent
  have last : ∃ others, reversePieces (headAndBody (front ++ '/' :: name)).2 = name :: others := by
    cases front with
    | nil =>
      refine ⟨[], ?_⟩
      change reversePieces name = [name]
      rw [reversePieces, pieces_of_slash_notMem noSlash, List.reverse_singleton,
        List.dropWhile_cons_of_neg (by simp [notBlank])]
    | cons first rest =>
      obtain rfl : first = '/' := by simpa using rooted
      refine ⟨(pieces rest).reverse, ?_⟩
      change reversePieces (rest ++ '/' :: name) = _
      rw [reversePieces, pieces_append_slash, pieces_of_slash_notMem noSlash, List.reverse_append,
        List.reverse_singleton, List.singleton_append,
        List.dropWhile_cons_of_neg (by simp [notBlank])]
  obtain ⟨others, last⟩ := last
  unfold Path.fileName?
  rw [String.toList_ofList, last]
  exact if_neg notParent

/-- The extension of a name is what stands behind its last dot, if something stands before it. -/
theorem Path.extensionOf_append (noDot : '.' ∉ after) :
    extensionOf (before ++ '.' :: after) = if before = [] then none else some after := by
  have behind : ((before ++ '.' :: after).reverse.takeWhile (· != '.')).reverse = after := by
    have all : ∀ character ∈ after.reverse, (character != '.') = true := by
      intro character inside
      rw [bne_iff_ne]
      rintro rfl
      exact noDot (List.mem_reverse.mp inside)
    rw [List.reverse_append, List.reverse_cons, List.append_assoc,
      List.takeWhile_append_of_pos all, List.singleton_append,
      List.takeWhile_cons_of_neg (by simp), List.append_nil, List.reverse_reverse]
  have dotted : (before ++ '.' :: after).contains '.' = true := by simp
  have named : after.length + 1 < (before ++ '.' :: after).length ↔ before ≠ [] := by
    rw [List.length_append, List.length_cons, ← List.length_pos_iff]
    omega
  rw [extensionOf, behind]
  by_cases nameless : before = []
  · rw [if_neg fun both => named.mp both.2 nameless, if_pos nameless]
  · rw [if_pos ⟨dotted, named.mpr nameless⟩, if_neg nameless]

/-- The extension of a path that ends in a name with a dot. -/
theorem Path.extension?_of_dot
    (rooted : (front ++ '/' :: (before ++ '.' :: after)).head? = some '/')
    (single : IsSingle (String.ofList (before ++ '.' :: after))) (noDot : '.' ∉ after) :
    (Path.mk (String.ofList (front ++ '/' :: (before ++ '.' :: after)))).extension? =
      if before = [] then none else some (String.ofList after) := by
  unfold Path.extension?
  rw [fileName?_of_single rooted single, Option.bind_some, String.toList_ofList,
    extensionOf_append noDot]
  split <;> rfl

/-- The last part of the path of an address is its name. -/
theorem lastPart_pathOf (url : Url) : Url.Path.lastPart (kindOf (schemeOf url)) (pathOf url) =
    nameOf url := by
  unfold pathOf nameOf
  split
  case isTrue slashed =>
    obtain ⟨rest, path⟩ := List.head?_eq_some_iff.mp slashed
    rw [path, List.drop_one, List.tail_cons, Url.Path.lastPart_cons (Url.Path.separates_slash _)]
  case isFalse => rfl

/-- The extension of the path of the url at an address. -/
def Image.extensionAt (address : String) : Option String :=
  (Url.parse address).toOption.bind fun url => (Path.mk url.path).extension?

/-- The extension at an address is that of the path of its url. -/
theorem extensionAt_of_parse {address : String} (read : Url.parse address = .ok url) :
    extensionAt address = (Path.mk url.path).extension? := by
  rw [extensionAt, read]
  rfl

/-- The local copy of an entry is named by its uid and the extension at the address of its image. -/
theorem localImage?_eq {entry : Entry} {address : String}
    (plainUid : Path.isPlainName entry.uid = true) (isImage : entry.image = some address)
    (directory : Path) : entry.localImage? directory =
      some (directory.child (entry.uid ++ "." ++ (extensionAt address).getD "")) := by
  rw [Entry.localImage?, if_pos plainUid, isImage]
  rfl

/-- The extension of the address of a url is what stands behind the last dot of its last name. -/
theorem extensionAt_located (isRead : IsRead url) (rooted : url.host = none ∨ url.path ≠ "")
    {appended : String} (noMark : '?' ∉ appended.toList ∧ '#' ∉ appended.toList)
    (last : Url.Path.lastPart (kindOf (schemeOf url)) (textAfter url appended) =
      before ++ '.' :: after) (noDot : '.' ∉ after)
    (named : Url.Path.IsNamed (Percent.encode Percent.inPath (before ++ '.' :: after))) :
    extensionAt (locate url ++ appended) = if before = [] then none
      else some (String.ofList (Percent.encode Percent.inPath after)) := by
  have read := parse_located isRead rooted appended
  have plain : '?' ∉ textAfter url appended ∧ '#' ∉ textAfter url appended := by
    rw [textAfter, mem_cleanEnd (by decide), mem_cleanEnd (by decide), List.mem_append,
      List.mem_append, not_or, not_or]
    exact ⟨⟨fun inside => (isPathCharacter_pathOf isRead inside).1 rfl, noMark.1⟩,
      ⟨fun inside => (isPathCharacter_pathOf isRead inside).2.1 rfl, noMark.2⟩⟩
  rw [splitPath_eq_self plain] at read
  have drive : Url.Path.isDrive (Percent.encode Percent.inPath (before ++ '.' :: after)) = false :=
    Url.Path.isDrive_of_mem (by simp [Percent.encode_dot])
  rw [← last] at named drive
  obtain ⟨front, path⟩ := Url.Path.exists_read_lastPart (by simp [last]) named drive
  have rootedAgain := Url.Path.head?_read (kindOf (schemeOf url)) (textAfter url appended)
  have noSlash := Url.Path.slash_notMem_lastPart (kindOf (schemeOf url)) (textAfter url appended)
  have noDots := named.ne_dots
  rw [path, last, Percent.encode_dot] at rootedAgain
  rw [last, Percent.encode_dot] at path noSlash noDots
  have single : Path.IsSingle (String.ofList (Percent.encode Percent.inPath before ++
      '.' :: Percent.encode Percent.inPath after)) := by
    refine ⟨by simpa using noSlash, ?_, by simpa using noDots.2⟩
    simpa [Path.isBlankPiece] using noDots.1
  rw [extensionAt_of_parse read, path_assemble, path,
    Path.extension?_of_dot rootedAgain single (Percent.dot_notMem_encode noDot)]
  by_cases nameless : before = []
  · rw [if_pos nameless, nameless]
    rfl
  · rw [if_neg nameless, if_neg (Percent.encode_ne_nil _ nameless)]

/-- A plain hint behind a dot goes on with the name. -/
theorem goesOn_hint (plain : IsPlainHint hint) : GoesOn ('.' :: hint.toList) := by
  intro character inside
  rcases List.mem_cons.mp inside with rfl | inside
  · decide
  · exact ⟨(isVisible_of_isAlphanum (plain.2 character inside)).1,
      notMem_of_isAlphanum (plain.2 character inside) (by decide)⟩

/-- A hint that is added to a host makes no path, and so no extension. -/
theorem extensionAt_unrooted (isRead : IsRead url)
    (unrooted : ¬ (url.host = none ∨ url.path ≠ "")) (plain : IsPlainHint hint) :
    extensionAt (locate url ++ ("." ++ hint)) = none := by
  obtain ⟨plainKind, text⟩ := locate_of_unrooted isRead unrooted
  have whole : locate url ++ ("." ++ hint) = String.ofList
      (schemeOf url ++ ':' :: '/' :: '/' :: (hostOf url ++ '.' :: hint.toList)) := by
    apply String.toList_inj.mp
    simp [text]
  cases read : Url.parse (locate url ++ ("." ++ hint)) with
  | error failure =>
    rw [extensionAt, read]
    rfl
  | ok after =>
    rw [extensionAt_of_parse read]
    rw [whole] at read
    rw [path_of_goesOn (isScheme_schemeOf isRead) (plainKind ▸ isHost_hostOf isRead) plainKind
      (goesOn_hint plain) read]
    rfl

/-- A hint that is added to an address is its extension, if there is a name before it. -/
theorem extensionAt_hint (isRead : IsRead url) (plain : IsPlainHint hint) :
    extensionAt (locate url ++ ("." ++ hint)) =
      if nameOf url = [] then none else some hint := by
  by_cases rooted : url.host = none ∨ url.path ≠ ""
  case neg =>
    have noPath : url.path = "" := by
      by_contra path
      exact rooted (.inr path)
    have nameless : nameOf url = [] := by simp [nameOf, noPath, Url.Path.lastPart]
    rw [extensionAt_unrooted isRead rooted plain, if_pos nameless]
  case pos =>
    have text : ("." ++ hint).toList = '.' :: hint.toList := by simp
    have visible := goesOn_hint plain
    have noMark : '?' ∉ ("." ++ hint).toList ∧ '#' ∉ ("." ++ hint).toList := by
      rw [text]
      exact ⟨fun inside => absurd (visible _ inside).2 (by decide),
        fun inside => absurd (visible _ inside).2 (by decide)⟩
    have isClean : textAfter url ("." ++ hint) = pathOf url ++ '.' :: hint.toList := by
      rw [textAfter, text]
      refine cleanEnd_eq_self (fun character inside => ?_) fun character last => ?_
      · rcases List.mem_append.mp inside with inPath | inHint
        · exact (isPathCharacter_pathOf isRead inPath).2.2
        · exact Nat.le_of_lt (visible character inHint).1
      · rw [List.getLast?_append_of_ne_nil _ (by simp)] at last
        exact (visible character (List.mem_of_getLast? last)).1
    have last : Url.Path.lastPart (kindOf (schemeOf url)) (textAfter url ("." ++ hint)) =
        nameOf url ++ '.' :: hint.toList := by
      rw [isClean, Url.Path.lastPart_append (plain.free _), lastPart_pathOf]
    have encoded : Percent.encode Percent.inPath hint.toList = hint.toList :=
      Percent.encode_eq_self fun character inside =>
        not_inPath_of_isAlphanum (plain.2 character inside)
    have named : Url.Path.IsNamed
        (Percent.encode Percent.inPath (nameOf url ++ '.' :: hint.toList)) := by
      rw [Percent.encode_dot, encoded]
      exact Url.Path.isNamed_extended (by simpa using plain.1)
        ⟨plain.notMem (by decide), plain.notMem (by decide)⟩ _
    rw [extensionAt_located isRead rooted noMark last (plain.notMem (by decide)) named, encoded,
      String.ofList_toList]

/-- An address with a dot inside its last name, and none at its end, has an extension. -/
theorem extensionAt_ne_empty (isRead : IsRead url) (rooted : url.host = none ∨ url.path ≠ "")
    (dot : '.' ∈ (finalNameOf url).tail) (noDotLast : (finalNameOf url).getLast? ≠ some '.') :
    (extensionAt (locate url)).getD "" ≠ "" := by
  obtain ⟨before, after, name, noDot⟩ := exists_of_dot (List.mem_of_mem_tail dot)
  have someBefore : before ≠ [] := by
    rintro rfl
    rw [name] at dot
    exact noDot dot
  have someAfter : after ≠ [] := by
    rintro rfl
    simp [name] at noDotLast
  have named : Url.Path.IsNamed (Percent.encode Percent.inPath (before ++ '.' :: after)) := by
    rw [Percent.encode_dot]
    exact Url.Path.isNamed_append_dot (Percent.encode_ne_nil _ someBefore)
      (Percent.encode_ne_nil _ someAfter)
  have found := extensionAt_located isRead rooted (by simp) name noDot named
  rw [String.append_empty, if_neg someBefore] at found
  rw [found]
  simpa using Percent.encode_ne_nil _ someAfter

/-- A hint of letters and digits that is added to an address is the extension of the local copy,
unless it stands alone behind the last separator. Where no hint is added, the local copy has an
extension, too, if there is a dot inside the last name and none at its end. -/
theorem localImage_extension {standard hint address : String} {entry : Entry}
    (plainUid : Path.isPlainName entry.uid = true) (isImage : entry.image = some address)
    (found : url? standard = some url) (plain : IsPlainHint hint)
    (isAddress : Image.address standard (some hint) = some address) (directory : Path) :
    ∃ extension, entry.localImage? directory =
        some (directory.child (entry.uid ++ "." ++ extension)) ∧
      (hasExtension url.path.toList = false →
        extension = if nameOf url = [] then "" else hint) ∧
      (hasExtension url.path.toList = true → '.' ∈ (finalNameOf url).tail →
        (finalNameOf url).getLast? ≠ some '.' → extension ≠ "") := by
  have isRead := isRead_of_url? found
  obtain rfl : locate url ++ extension url.path (some hint) = address := by
    simpa [Image.address, found] using isAddress
  refine ⟨_, localImage?_eq plainUid isImage directory, ?_, ?_⟩
  · intro bare
    have added : extension url.path (some hint) = "." ++ hint := by
      rw [extension, if_neg (by simp [plain.1, bare])]
    rw [added, extensionAt_hint isRead plain]
    split <;> rfl
  · intro extended dot noDotLast
    have nothing : extension url.path (some hint) = "" := if_pos (.inr extended)
    have rooted : url.host = none ∨ url.path ≠ "" := by
      right
      intro noPath
      rw [noPath] at extended
      exact absurd extended (by decide)
    rw [nothing, String.append_empty]
    exact extensionAt_ne_empty isRead rooted dot noDotLast

/-- The local copy of an image without an extension of its own has that of the hint. -/
theorem localImage_extension_hint :
    url? "/img/x" = some { siteUrl with path := "/img/x" } ∧
      Image.address "/img/x" (some "jpg") = some "https://www.riddle.com/img/x.jpg" ∧
      (Entry.mk "u" "T" .published (some "https://www.riddle.com/img/x.jpg")).localImage?
        ⟨"thumbs"⟩ = some ⟨"thumbs/u.jpg"⟩ := by
  have plainUid : Path.isPlainName (Entry.mk "u" "T" .published
      (some "https://www.riddle.com/img/x.jpg")).uid = true := by decide
  have isImage : (Entry.mk "u" "T" .published (some "https://www.riddle.com/img/x.jpg")).image =
      some "https://www.riddle.com/img/x.jpg" := rfl
  have found : url? "/img/x" = some { siteUrl with path := "/img/x" } := by decide
  have isAddress : Image.address "/img/x" (some "jpg") =
      some "https://www.riddle.com/img/x.jpg" := by decide
  obtain ⟨extension, isCopy, isHint, _⟩ := localImage_extension plainUid isImage found
    ⟨by decide, List.all_eq_true.mp (by decide)⟩ isAddress ⟨"thumbs"⟩
  refine ⟨found, isAddress, ?_⟩
  rw [isCopy, isHint (by decide), if_neg (by decide)]
  decide

/-- Behind a slash, a hint makes a hidden name, and the local copy has no extension. -/
theorem localImage_hidden_name :
    url? "/img/" = some { siteUrl with path := "/img/" } ∧ IsPlainHint "jpg" ∧
      hasExtension "/img/".toList = false ∧
      Image.address "/img/" (some "jpg") = some "https://www.riddle.com/img/.jpg" ∧
      (Entry.mk "u" "T" .published (some "https://www.riddle.com/img/.jpg")).localImage?
        ⟨"thumbs"⟩ = some ⟨"thumbs/u."⟩ := by
  have found : url? "/img/" = some { siteUrl with path := "/img/" } := by decide
  have plain : IsPlainHint "jpg" := ⟨by decide, List.all_eq_true.mp (by decide)⟩
  have address : locate { siteUrl with path := "/img/" } ++ ("." ++ "jpg") =
      "https://www.riddle.com/img/.jpg" := by decide
  have none := extensionAt_hint (isRead_of_url? found) plain
  rw [address, if_pos (by decide)] at none
  refine ⟨found, plain, by decide, by decide, ?_⟩
  rw [localImage?_eq (by decide) rfl, none]
  decide

end QuizFeed
