import QuizFeed.Proofs.Feed.Batch

/-!
# What an item projects to

An item is looked at in a few places, each behind a path of keys (`places`). What lies there
describes an entry (`Describes`): its title and its image each come from the first of two data
objects that gives a text for it. An item projects to the entry that it describes, if it has any
data at all (`entry?_eq_some_iff`).

A value that is not of the kind that is looked for in its place may be replaced by another such
value, or be left out. This is an edit of the item, and what is looked for is found after it exactly
if it was found before (`at?_edit_iff`).
-/

namespace QuizFeed

namespace Json.Value

/-- What lies behind a path of keys. -/
def at? : List String → Value → Option Value
  | [], value => some value
  | key :: rest, value => (value.member? key).bind (at? rest)

/-- Members with something else under a key, or with nothing. -/
def assign (key : String) (content : Option Value) (members : List (String × Value)) :
    List (String × Value) :=
  members.filter (·.1 != key) ++ (content.map fun value => (key, value)).toList

/-- What becomes of a value when something else is put behind a path of keys, or nothing. Where
nothing lies behind the path, nothing is put there. -/
def edit (content : Option Value) : List String → Value → Option Value
  | [], _ => content
  | key :: rest, object members =>
    some (object (assign key ((lookup key members).bind (edit content rest)) members))
  | _ :: _, value => some value

variable {content : Option Value} {key other : String} {members : List (String × Value)}
  {path place : List String} {value old wanted : Value}

/-- In two lists of members the second one counts first. -/
theorem lookup_append (key : String) (first second : List (String × Value)) :
    lookup key (first ++ second) = (lookup key second).or (lookup key first) := by
  induction first with
  | nil => simp [lookup]
  | cons head rest inductionHypothesis =>
    obtain ⟨name, value⟩ := head
    simp only [List.cons_append, lookup, inductionHypothesis]
    cases lookup key second <;> rfl

/-- Leaving out a key hides what was under it, and nothing else. -/
theorem lookup_filter (key other : String) (members : List (String × Value)) :
    lookup other (members.filter (·.1 != key)) =
      if other = key then none else lookup other members := by
  induction members with
  | nil => simp [lookup]
  | cons head rest inductionHypothesis =>
    obtain ⟨name, value⟩ := head
    by_cases isKey : name = key
    · subst isKey
      rw [List.filter_cons_of_neg (by simp), inductionHypothesis, lookup]
      split
      · rfl
      · rename_i different
        rw [if_neg (Ne.symm different)]
        cases lookup other rest <;> rfl
    · rw [List.filter_cons_of_pos (by simpa using isKey), lookup, inductionHypothesis, lookup]
      by_cases same : other = key
      · subst same
        rw [if_pos rfl, if_neg isKey, if_pos rfl]
      · rw [if_neg same, if_neg same]

/-- Assigning to a key decides what is under it, and leaves the rest. -/
theorem lookup_assign (key other : String) (content : Option Value)
    (members : List (String × Value)) :
    lookup other (assign key content members) =
      if other = key then content else lookup other members := by
  unfold assign
  rw [lookup_append, lookup_filter]
  cases content with
  | none => rfl
  | some value =>
    by_cases same : other = key
    · simp [lookup, same]
    · simp [lookup, same, Ne.symm same]

/-- Something new can be put behind any path. -/
theorem exists_edit_some (new : Value) (path : List String) (value : Value) :
    ∃ edited, edit (some new) path value = some edited := by
  cases path with
  | nil => exact ⟨new, rfl⟩
  | cons key rest => cases value <;> exact ⟨_, rfl⟩

/-- What is looked for in a place is found after an edit exactly if it was found before, where the
edit puts one thing of no use in the place of another. Objects have to be of use on the way to what
is looked for, which is no object itself. -/
theorem at?_edit_iff {useful : List String → Value → Prop}
    (nested : ∀ path more value members, more ≠ [] → useful (path ++ more) value →
      useful path (object members))
    (there : value.at? path = some old) (useless : ¬ useful path old)
    (still : ∀ new, content = some new → ¬ useful path new)
    (looked : useful place wanted) (simple : ∀ members, wanted ≠ object members) :
    (edit content path value).bind (at? place) = some wanted ↔ value.at? place = some wanted := by
  -- Behind something of no use nothing is found that is looked for.
  have hidden : ∀ {useful : List String → Value → Prop} {place : List String} {other : Value},
      (∀ path more value members, more ≠ [] → useful (path ++ more) value →
        useful path (object members)) →
      ¬ useful [] other → useful place wanted → other.at? place ≠ some wanted := by
    intro useful place other nested useless looked found
    cases place with
    | nil =>
      cases found
      exact useless looked
    | cons key rest =>
      cases other with
      | object members => exact useless (nested [] (key :: rest) wanted members (by simp) looked)
      | _ => cases found
  induction path generalizing value place useful with
  | nil =>
    cases there
    refine iff_of_false (fun found => ?_) (hidden nested useless looked)
    obtain ⟨new, isNew, found⟩ := Option.bind_eq_some_iff.mp found
    exact hidden nested (still new isNew) looked found
  | cons key rest inductionHypothesis =>
    cases value with
    | object members =>
      cases place with
      | nil =>
        refine iff_of_false (fun found => ?_) (fun found => ?_)
        · exact simple _ (Option.some.inj found).symm
        · exact simple _ (Option.some.inj found).symm
      | cons other others =>
        obtain ⟨inner, isInner, behind⟩ := Option.bind_eq_some_iff.mp there
        change (lookup other (assign key _ members)).bind _ = _ ↔
          (lookup other members).bind _ = _
        rw [lookup_assign]
        split
        · rename_i same
          subst same
          rw [show lookup other members = some inner from isInner]
          have below : ∀ path more value members, more ≠ [] →
              useful (other :: (path ++ more)) value → useful (other :: path) (object members) :=
            fun path => nested (other :: path)
          exact @inductionHypothesis _ _ (fun path => useful (other :: path)) below behind useless
            still looked
        · rfl
    | _ => cases there

end Json.Value

open Json Value

namespace Projection

/-- The kinds of values that are looked for in an item. -/
inductive Kind where
  | object
  | text
  | identifier
  deriving DecidableEq

/-- Whether a value is of a kind. -/
def Kind.Fits : Kind → Value → Prop
  | object, value => ∃ members, value = .object members
  | text, value => ∃ content, value = .text content
  | identifier, value => (∃ content, value = .text content) ∨ ∃ number, value = .number number

/-- The keys of the data of an item, from the one that counts first. -/
def sources : List String :=
  ["data", "draftData"]

/-- The places of an item that are looked at, as paths of keys, and the kind that is looked for. -/
def places : List (List String × Kind) :=
  [([], .object), (["uid"], .identifier), (["status"], .text)] ++
    sources.flatMap fun source =>
      [([source], .object), ([source, "title"], .text), ([source, "image"], .object),
        ([source, "image", "standard"], .text), ([source, "image", "format"], .text)]

/-- Whether a value is of the kind that is looked for behind a path of keys, if any is. -/
def IsUseful (path : List String) (value : Value) : Prop :=
  ∃ kind, (path, kind) ∈ places ∧ kind.Fits value

/-- Whether an item has an object with at least one member under a key. -/
def HasData (item : Value) (source : String) : Prop :=
  ∃ members, item.at? [source] = some (.object members) ∧ members ≠ []

/-- Whether the data under a key gives a text that is not empty, behind a path of keys. -/
def Gives (item : Value) (source : String) (path : List String) (text : String) : Prop :=
  HasData item source ∧ item.at? (source :: path) = some (.text text) ∧ text ≠ ""

/-- The source that gives a text first. -/
inductive First (item : Value) (path : List String) : String → String → Prop where
  | data {text} (gives : Gives item "data" path text) : First item path "data" text
  | draft {text} (absent : ∀ other, ¬ Gives item "data" path other)
      (gives : Gives item "draftData" path text) : First item path "draftData" text

/-- The identifier that a value denotes. -/
inductive Identifies : Value → String → Prop where
  | text {uid} (filled : uid ≠ "") : Identifies (.text uid) uid
  | number (number) : Identifies (.number number) number.render

/-- The title of an item with an identifier. -/
inductive Titled (titleStart : String) (item : Value) (uid : String) : String → Prop where
  | given {source title} (first : First item ["title"] source title) :
      Titled titleStart item uid title
  | missing (absent : ∀ source title, ¬ First item ["title"] source title) :
      Titled titleStart item uid (titleStart ++ uid)

/-- The hint at the format of an image, from the same data as the image itself. -/
inductive Hinted (item : Value) (source : String) : Option String → Prop where
  | given {format} (gives : Gives item source ["image", "format"] format) :
      Hinted item source (some format)
  | missing (absent : ∀ format, ¬ Gives item source ["image", "format"] format) :
      Hinted item source none

/-- The image of an item. -/
inductive Illustrated (item : Value) : Option String → Prop where
  | given {source standard hint} (first : First item ["image", "standard"] source standard)
      (hinted : Hinted item source hint) : Illustrated item (Image.address standard hint)
  | missing (absent : ∀ source standard, ¬ First item ["image", "standard"] source standard) :
      Illustrated item none

/-- What an entry has to be by what lies in the places of an item. -/
structure Describes (titleStart : String) (item : Value) (entry : Entry) : Prop where
  uid : ∃ value, item.at? ["uid"] = some value ∧ Identifies value entry.uid
  title : Titled titleStart item entry.uid entry.title
  status : entry.status = .published ↔ item.at? ["status"] = some (.text "published")
  image : Illustrated item entry.image

variable {titleStart key source text uid title : String} {path : List String} {item data : Value}
  {entry : Entry} {hint image : Option String}

/-- What the data under a key gives behind a path of keys. -/
def given? (item : Value) (source : String) (path : List String) : Option String :=
  (filledObject? source item).bind fun data => (data.at? path).bind filledText?

/-- The image that the data under a key gives. -/
def picture? (item : Value) (source : String) : Option String :=
  (given? item source ["image", "standard"]).bind fun standard =>
    Image.address standard (given? item source ["image", "format"])

/-- Behind a single key lies the member with that key. -/
theorem at?_key (key : String) (item : Value) : item.at? [key] = item.member? key := by
  cases found : item.member? key <;> simp [at?, found]

/-- The data under a key are an object with members. -/
theorem filledObject?_eq_some_iff : filledObject? key item = some data ↔
    item.at? [key] = some data ∧ ∃ members, data = .object members ∧ members ≠ [] := by
  unfold filledObject?
  rw [at?_key, Option.filter_eq_some_iff]
  refine and_congr_right fun _ => ?_
  cases data with
  | object members => cases members <;> simp [members?]
  | _ => simp [members?]

/-- An item has data where an object with members is found. -/
theorem hasData_iff : HasData item source ↔ ∃ data, filledObject? source item = some data := by
  constructor
  · rintro ⟨members, found, filled⟩
    exact ⟨_, filledObject?_eq_some_iff.mpr ⟨found, members, rfl, filled⟩⟩
  · rintro ⟨data, isFilled⟩
    obtain ⟨found, members, rfl, filled⟩ := filledObject?_eq_some_iff.mp isFilled
    exact ⟨members, found, filled⟩

/-- A text counts if it is not empty. -/
theorem bind_filledText?_eq_some_iff {value? : Option Value} :
    value?.bind filledText? = some text ↔ value? = some (.text text) ∧ text ≠ "" := by
  cases value? with
  | none => simp
  | some value =>
    rw [Option.bind_some]
    unfold filledText?
    rw [Option.filter_eq_some_iff, bne_iff_ne]
    cases value <;> simp [text?]

/-- A text is given where it is found. -/
theorem gives_iff : Gives item source path text ↔ given? item source path = some text := by
  have behind (data : Value) (found : item.at? [source] = some data) :
      item.at? (source :: path) = data.at? path := by
    rw [at?_key] at found
    rw [at?, found, Option.bind_some]
  unfold Gives given?
  rw [Option.bind_eq_some_iff, hasData_iff]
  constructor
  · rintro ⟨⟨data, filled⟩, found, some⟩
    rw [behind data (filledObject?_eq_some_iff.mp filled).1] at found
    exact ⟨data, filled, bind_filledText?_eq_some_iff.mpr ⟨found, some⟩⟩
  · rintro ⟨data, filled, found⟩
    obtain ⟨found, some⟩ := bind_filledText?_eq_some_iff.mp found
    rw [← behind data (filledObject?_eq_some_iff.mp filled).1] at found
    exact ⟨⟨data, filled⟩, found, some⟩

/-- Nothing is given where nothing is found. -/
theorem forall_not_gives_iff :
    (∀ text, ¬ Gives item source path text) ↔ given? item source path = none := by
  simp only [gives_iff, Option.eq_none_iff_forall_ne_some]

/-- A source gives a text first if it is found there, and not in one that counts more. -/
theorem first_iff : First item path source text ↔
    source = "data" ∧ given? item "data" path = some text ∨
      source = "draftData" ∧ given? item "data" path = none ∧
        given? item "draftData" path = some text := by
  simp only [← gives_iff, ← forall_not_gives_iff]
  constructor
  · rintro (gives | ⟨absent, gives⟩)
    · exact .inl ⟨rfl, gives⟩
    · exact .inr ⟨rfl, absent, gives⟩
  · rintro (⟨rfl, gives⟩ | ⟨rfl, absent, gives⟩)
    · exact .data gives
    · exact .draft absent gives

/-- No source gives a text first if it is found in none of them. -/
theorem forall_not_first_iff : (∀ source text, ¬ First item path source text) ↔
    given? item "data" path = none ∧ given? item "draftData" path = none := by
  simp only [first_iff]
  constructor
  · intro absent
    have noData : given? item "data" path = none :=
      Option.eq_none_iff_forall_ne_some.mpr fun text given => absent _ text (.inl ⟨rfl, given⟩)
    refine ⟨noData, Option.eq_none_iff_forall_ne_some.mpr fun text given => ?_⟩
    exact absent _ text (.inr ⟨rfl, noData, given⟩)
  · rintro ⟨noData, noDraft⟩ source text (⟨_, given⟩ | ⟨_, _, given⟩)
    · cases noData.symm.trans given
    · cases noDraft.symm.trans given

/-- The title is the first one that is found, or else made from the identifier. -/
theorem titled_iff : Titled titleStart item uid title ↔
    title = ((given? item "data" ["title"]).or (given? item "draftData" ["title"])).getD
      (titleStart ++ uid) := by
  constructor
  · rintro (first | absent)
    · rcases first_iff.mp first with ⟨_, given⟩ | ⟨_, absent, given⟩
      · simp [given]
      · simp [absent, given]
    · obtain ⟨noData, noDraft⟩ := forall_not_first_iff.mp absent
      simp [noData, noDraft]
  · rintro rfl
    cases published : given? item "data" ["title"] with
    | some title => exact .given (first_iff.mpr (.inl ⟨rfl, published⟩))
    | none =>
      cases draft : given? item "draftData" ["title"] with
      | some title => exact .given (first_iff.mpr (.inr ⟨rfl, published, draft⟩))
      | none => exact .missing (forall_not_first_iff.mpr ⟨published, draft⟩)

/-- The hint at a format is the one that is found. -/
theorem hinted_iff : Hinted item source hint ↔ hint = given? item source ["image", "format"] := by
  constructor
  · rintro (gives | absent)
    · rw [gives_iff] at gives
      exact gives.symm
    · rw [forall_not_gives_iff] at absent
      exact absent.symm
  · rintro rfl
    cases given : given? item source ["image", "format"] with
    | some format =>
      rw [← gives_iff] at given
      exact .given given
    | none =>
      rw [← forall_not_gives_iff] at given
      exact .missing given

/-- The image is made from the first data that has a standard. -/
theorem illustrated_iff : Illustrated item image ↔
    image = if (given? item "data" ["image", "standard"]).isSome then picture? item "data"
      else picture? item "draftData" := by
  constructor
  · rintro (⟨first, hinted⟩ | absent)
    · obtain rfl := hinted_iff.mp hinted
      rcases first_iff.mp first with ⟨rfl, given⟩ | ⟨rfl, absent, given⟩
      · simp [picture?, given]
      · simp [picture?, absent, given]
    · obtain ⟨noData, noDraft⟩ := forall_not_first_iff.mp absent
      simp [picture?, noData, noDraft]
  · rintro rfl
    cases published : given? item "data" ["image", "standard"] with
    | some standard =>
      simp only [Option.isSome_some, if_true, picture?, published, Option.bind_some]
      exact .given (first_iff.mpr (.inl ⟨rfl, published⟩)) (hinted_iff.mpr rfl)
    | none =>
      simp only [Option.isSome_none, Bool.false_eq_true, if_false, picture?]
      cases draft : given? item "draftData" ["image", "standard"] with
      | some standard =>
        exact .given (first_iff.mpr (.inr ⟨rfl, published, draft⟩)) (hinted_iff.mpr rfl)
      | none => exact .missing (forall_not_first_iff.mpr ⟨published, draft⟩)

/-- The first of two values that may be missing which gives a text gives it. -/
theorem findSome?_present (first second : Option Value) (give : Value → Option String) :
    ([first, second].filterMap id).findSome? give = (first.bind give).or (second.bind give) := by
  have last : second.toList.findSome? give = second.bind give := by
    cases second with
    | none => rfl
    | some draft => cases found : give draft <;> simp [found]
  cases first with
  | none => cases second <;> exact last
  | some data =>
    cases found : give data with
    | none =>
      cases second with
      | none => simp [found]
      | some draft => simpa [List.findSome?_cons, found] using last
    | some text => cases second <;> simp [found]

/-- What becomes of the first of two values that may be missing which gives a text. -/
theorem bind_find?_present (first second : Option Value) (give : Value → Option String)
    (next : Value → String → Option String) :
    (([first, second].filterMap id).find? fun data => (give data).isSome).bind
        (fun data => (give data).bind (next data)) =
      if (first.bind give).isSome then first.bind fun data => (give data).bind (next data)
      else second.bind fun data => (give data).bind (next data) := by
  have last : ((second.toList).find? fun data => (give data).isSome).bind
      (fun data => (give data).bind (next data)) =
        second.bind fun data => (give data).bind (next data) := by
    cases second with
    | none => rfl
    | some draft => cases found : give draft <;> simp [found]
  cases first with
  | none => cases second <;> exact last
  | some data =>
    cases found : give data with
    | none =>
      cases second with
      | none => simp [found]
      | some draft => simpa [List.find?_cons, found] using last
    | some text => cases second <;> simp [found]

/-- The entry of an item, put together from what its data gives. -/
theorem entry?_eq (titleStart : String) (item : Value) :
    entry? titleStart item =
      if filledObject? "data" item = none ∧ filledObject? "draftData" item = none then none
      else ((item.member? "uid").bind uid?).map fun uid => {
        uid := uid
        title := ((given? item "data" ["title"]).or (given? item "draftData" ["title"])).getD
          (titleStart ++ uid)
        status := .ofText ((item.member? "status").bind text?)
        image := if (given? item "data" ["image", "standard"]).isSome then picture? item "data"
          else picture? item "draftData" } := by
  have title : title? = fun data => (data.at? ["title"]).bind filledText? := by
    funext data
    rw [at?_key]
    rfl
  have picture (key : String) (data : Value) :
      imageText? key data = (data.at? ["image", key]).bind filledText? := by
    unfold imageText? at?
    congr 2
    funext value
    exact (at?_key key value).symm
  have image (source : String) : ((filledObject? source item).bind fun data =>
      (imageText? "standard" data).bind fun reference =>
        Image.address reference (imageText? "format" data)) = picture? item source := by
    unfold picture? given?
    simp only [picture]
    cases filledObject? source item <;> rfl
  have standard (source : String) : (filledObject? source item).bind (imageText? "standard") =
      given? item source ["image", "standard"] := by
    unfold given?
    rw [show imageText? "standard" = _ from funext (picture "standard")]
  have empty : ([filledObject? "data" item, filledObject? "draftData" item].filterMap id).isEmpty =
      true ↔ filledObject? "data" item = none ∧ filledObject? "draftData" item = none := by
    cases filledObject? "data" item <;> cases filledObject? "draftData" item <;> simp
  unfold entry?
  dsimp only
  unfold image?
  rw [findSome?_present, title, bind_find?_present, image, image, standard]
  simp only [empty]
  split
  · rfl
  · cases (item.member? "uid").bind uid? <;> rfl

/-- An item has data unless neither source has any. -/
theorem hasData_or_iff : (HasData item "data" ∨ HasData item "draftData") ↔
    ¬ (filledObject? "data" item = none ∧ filledObject? "draftData" item = none) := by
  rw [hasData_iff, hasData_iff]
  cases filledObject? "data" item <;> cases filledObject? "draftData" item <;> simp

/-- The identifier of an item is what its uid denotes. -/
theorem bind_uid?_eq_some_iff : (item.member? "uid").bind uid? = some uid ↔
    ∃ value, item.at? ["uid"] = some value ∧ Identifies value uid := by
  rw [at?_key, Option.bind_eq_some_iff]
  refine exists_congr fun value => and_congr_right fun _ => ?_
  constructor
  · intro found
    unfold uid? at found
    split at found
    · split at found
      · cases found
      · cases found
        exact .text ‹_›
    · cases found
      exact .number _
    · cases found
  · rintro (filled | number)
    · exact if_neg filled
    · rfl

/-- The status of an item is published only if that text is given. -/
theorem eq_ofText_iff (status : Status) :
    status = .ofText ((item.member? "status").bind text?) ↔
      (status = .published ↔ item.at? ["status"] = some (.text "published")) := by
  have text : (item.member? "status").bind text? = some "published" ↔
      item.at? ["status"] = some (.text "published") := by
    rw [at?_key]
    rcases item.member? "status" with _ | _ | _ | _ | _ | _ | _ <;> simp [text?]
  rw [← text]
  unfold Status.ofText
  by_cases published : (item.member? "status").bind text? = some "published" <;>
    cases status <;> simp [published]

/-- An entry describes an item if identifier, title, status and image are those that are found. -/
theorem describes_iff : Describes titleStart item entry ↔
    (∃ value, item.at? ["uid"] = some value ∧ Identifies value entry.uid) ∧
      entry.title = ((given? item "data" ["title"]).or (given? item "draftData" ["title"])).getD
        (titleStart ++ entry.uid) ∧
      (entry.status = .published ↔ item.at? ["status"] = some (.text "published")) ∧
      entry.image = if (given? item "data" ["image", "standard"]).isSome then picture? item "data"
        else picture? item "draftData" := by
  rw [← titled_iff, ← illustrated_iff]
  exact ⟨fun ⟨uid, title, status, image⟩ => ⟨uid, title, status, image⟩,
    fun ⟨uid, title, status, image⟩ => ⟨uid, title, status, image⟩⟩

/-- An item projects to the entry that it describes, if it has data. -/
theorem entry?_eq_some_iff : entry? titleStart item = some entry ↔
    (HasData item "data" ∨ HasData item "draftData") ∧ Describes titleStart item entry := by
  rw [hasData_or_iff, describes_iff, entry?_eq]
  constructor
  · intro projected
    split at projected
    · cases projected
    · rename_i filled
      obtain ⟨uid, found, rfl⟩ := Option.map_eq_some_iff.mp projected
      exact ⟨filled, bind_uid?_eq_some_iff.mp found, rfl, (eq_ofText_iff _).mp rfl, rfl⟩
  · rintro ⟨filled, identified, title, status, image⟩
    rw [if_neg filled, bind_uid?_eq_some_iff.mpr identified, Option.map_some, Option.some.injEq]
    exact Entry.ext rfl title.symm ((eq_ofText_iff _).mpr status).symm image.symm

/-- An item with data projects to an entry if it has an identifier. -/
theorem exists_entry?_iff : (∃ entry, entry? titleStart item = some entry) ↔
    (HasData item "data" ∨ HasData item "draftData") ∧
      ∃ value uid, item.at? ["uid"] = some value ∧ Identifies value uid := by
  constructor
  · rintro ⟨entry, projected⟩
    obtain ⟨filled, describes⟩ := entry?_eq_some_iff.mp projected
    obtain ⟨value, found, identifies⟩ := describes.uid
    exact ⟨filled, value, entry.uid, found, identifies⟩
  · rintro ⟨filled, value, uid, identified⟩
    rw [entry?_eq, if_neg (hasData_or_iff.mp filled),
      bind_uid?_eq_some_iff.mpr ⟨value, identified⟩]
    exact ⟨_, rfl⟩

section Edits

variable {old edited : Value} {content : Option Value}

/-- Nothing is looked for behind anything but objects. -/
theorem nested_useful (path more : List String) (value : Value) (members : List (String × Value))
    (long : more ≠ []) (useful : IsUseful (path ++ more) value) :
    IsUseful path (.object members) := by
  have table : ∀ place ∈ places, ∀ count < place.1.length,
      (place.1.take count, Kind.object) ∈ places := by
    decide
  obtain ⟨kind, member, _⟩ := useful
  have above := table _ member path.length (by simpa using List.length_pos_iff.mpr long)
  rw [List.take_left] at above
  exact ⟨.object, above, members, rfl⟩

/-- What is looked for in a place does not change with a value that is useful neither before nor
after. -/
theorem at?_text_edit {place : List String} (kind : Kind) (member : (place, kind) ∈ places)
    (notObject : kind ≠ .object) (there : item.at? path = some old)
    (useless : ¬ IsUseful path old) (still : ∀ new, content = some new → ¬ IsUseful path new)
    (isEdited : edit content path item = some edited) {wanted : Value} (fits : kind.Fits wanted) :
    edited.at? place = some wanted ↔ item.at? place = some wanted := by
  have simple : ∀ members, wanted ≠ .object members := by
    rintro members rfl
    cases kind with
    | object => exact notObject rfl
    | text => obtain ⟨_, isText⟩ := fits; cases isText
    | identifier => rcases fits with ⟨_, isText⟩ | ⟨_, isNumber⟩ <;> cases ‹_›
  have found : (edit content path item).bind (at? place) = some wanted ↔
      item.at? place = some wanted :=
    at?_edit_iff nested_useful there useless still ⟨kind, member, fits⟩ simple
  rwa [isEdited, Option.bind_some] at found

/-- An object with data is useful if it has members. -/
theorem isUseful_data {source : String} (known : source ∈ sources)
    (members : List (String × Value)) : IsUseful [source] (.object members) := by
  have table : ∀ source ∈ sources, ([source], Kind.object) ∈ places := by decide
  exact ⟨.object, table source known, members, rfl⟩

/-- Where data is found after an edit, it was found before. -/
theorem hasData_of_edit {source : String} (known : source ∈ sources)
    (there : item.at? path = some old) (useless : ¬ IsUseful path old)
    (still : ∀ new, content = some new → ¬ IsUseful path new)
    (isEdited : edit content path item = some edited) (filled : HasData edited source) :
    HasData item source := by
  obtain ⟨members, found, some⟩ := filled
  cases path with
  | nil =>
    -- What the whole item is replaced by is no object.
    cases edited with
    | object others => exact absurd ⟨.object, by decide, others, rfl⟩ (still _ isEdited)
    | _ => cases found
  | cons key rest =>
    obtain ⟨others, rfl⟩ : ∃ others, item = .object others := by
      cases item with
      | object others => exact ⟨others, rfl⟩
      | _ => cases there
    obtain rfl := Option.some.inj isEdited
    obtain ⟨inner, isInner, behind⟩ := Option.bind_eq_some_iff.mp there
    change lookup key others = .some inner at isInner
    rw [at?_key] at found
    change lookup source (assign key _ others) = _ at found
    rw [lookup_assign, isInner, Option.bind_some] at found
    split at found
    · rename_i same
      subst same
      cases rest with
      | nil => exact absurd (isUseful_data known members) (still _ found)
      | cons next more =>
        -- Something lies further behind, so the object is not empty.
        cases inner with
        | object within =>
          refine ⟨within, (at?_key source _).trans isInner, ?_⟩
          rintro rfl
          cases behind
        | _ => cases behind
    · exact ⟨members, (at?_key source _).trans found, some⟩

/-- Data is still found where something was put in the place of something of no use. -/
theorem hasData_replaced {source : String} {new : Value} (known : source ∈ sources)
    (there : item.at? path = some old) (useless : ¬ IsUseful path old)
    (isEdited : edit (some new) path item = some edited) (filled : HasData item source) :
    HasData edited source := by
  obtain ⟨members, found, some⟩ := filled
  obtain ⟨others, rfl⟩ : ∃ others, item = .object others := by
    cases item with
    | object others => exact ⟨others, rfl⟩
    | _ => cases found
  cases path with
  | nil =>
    cases there
    exact absurd ⟨.object, by decide, others, rfl⟩ useless
  | cons key rest =>
    obtain rfl := Option.some.inj isEdited
    obtain ⟨inner, isInner, behind⟩ := Option.bind_eq_some_iff.mp there
    change lookup key others = .some inner at isInner
    rw [at?_key] at found
    change lookup source others = _ at found
    unfold HasData
    simp only [at?_key]
    change ∃ members, lookup source (assign key _ others) = _ ∧ _
    rw [lookup_assign, isInner, Option.bind_some]
    split
    · rename_i same
      subst same
      obtain rfl := Option.some.inj (isInner.symm.trans found)
      cases rest with
      | nil =>
        obtain rfl := Option.some.inj behind
        exact absurd (isUseful_data known members) useless
      | cons next more =>
        obtain ⟨below, isBelow, _⟩ := Option.bind_eq_some_iff.mp behind
        change lookup next members = .some below at isBelow
        obtain ⟨put, isPut⟩ := exists_edit_some new more below
        refine ⟨_, rfl, ?_⟩
        rw [isBelow, Option.bind_some, isPut]
        simp [assign]
    · exact ⟨members, found, some⟩

/-- Something of no use may be replaced by something else of no use, or be left out, unless an
object with data loses its last member by it. -/
theorem entry?_edit (there : item.at? path = some old) (useless : ¬ IsUseful path old)
    (still : ∀ new, content = some new → ¬ IsUseful path new)
    (isEdited : edit content path item = some edited)
    (kept : content = none → ∀ source ∈ sources, HasData item source → HasData edited source) :
    entry? titleStart edited = entry? titleStart item := by
  have data : ∀ source ∈ sources, HasData edited source ↔ HasData item source := by
    intro source known
    refine ⟨hasData_of_edit known there useless still isEdited, ?_⟩
    cases content with
    | none => exact kept rfl source known
    | some new => exact hasData_replaced known there useless isEdited
  have given : ∀ source ∈ sources, ∀ place, (source :: place, Kind.text) ∈ places →
      given? edited source place = given? item source place := by
    intro source known place member
    refine Option.ext fun text => ?_
    rw [← gives_iff, ← gives_iff]
    unfold Gives
    rw [data source known, at?_text_edit .text member (by decide) there useless still isEdited
      ⟨text, rfl⟩]
  have identified (uid : String) :
      (∃ value, edited.at? ["uid"] = some value ∧ Identifies value uid) ↔
        ∃ value, item.at? ["uid"] = some value ∧ Identifies value uid := by
    refine exists_congr fun value => and_congr_left fun identifies => ?_
    refine at?_text_edit .identifier (by decide) (by decide) there useless still isEdited ?_
    cases identifies with
    | text => exact .inl ⟨_, rfl⟩
    | number => exact .inr ⟨_, rfl⟩
  have published : edited.at? ["status"] = some (.text "published") ↔
      item.at? ["status"] = some (.text "published") :=
    at?_text_edit .text (by decide) (by decide) there useless still isEdited ⟨_, rfl⟩
  have picture : ∀ source ∈ sources, picture? edited source = picture? item source := by
    intro source known
    have table : ∀ source ∈ sources, (source :: ["image", "standard"], Kind.text) ∈ places ∧
        (source :: ["image", "format"], Kind.text) ∈ places := by
      decide
    unfold picture?
    rw [given source known _ (table source known).1, given source known _ (table source known).2]
  refine Option.ext fun entry => ?_
  rw [entry?_eq_some_iff, entry?_eq_some_iff, describes_iff, describes_iff,
    data "data" (by decide), data "draftData" (by decide), identified, published,
    given "data" (by decide) _ (by decide), given "draftData" (by decide) _ (by decide),
    given "data" (by decide) _ (by decide), picture "data" (by decide),
    picture "draftData" (by decide)]

end Edits

/-- The projection of an item says what lies in its places and nothing else: there is an entry
exactly if the item is an object with data and an identifier, it is the entry that the item
describes, and what is not of the kind that is looked for might as well be anything else of that
sort. It might as well be missing, as long as the data around it has other members. -/
theorem entry?_described (titleStart : String) (item : Value) :
    ((∃ entry, entry? titleStart item = some entry) ↔
      (∃ members, item = .object members) ∧ (HasData item "data" ∨ HasData item "draftData") ∧
        ∃ value uid, item.at? ["uid"] = some value ∧ Identifies value uid) ∧
    (∀ entry, entry? titleStart item = some entry ↔
      (HasData item "data" ∨ HasData item "draftData") ∧ Describes titleStart item entry) ∧
    ∀ path old content edited, item.at? path = some old → ¬ IsUseful path old →
      (∀ new, content = some new → ¬ IsUseful path new) →
      edit content path item = some edited →
      (content = none → ∀ source ∈ sources, HasData item source → HasData edited source) →
      entry? titleStart edited = entry? titleStart item := by
  refine ⟨?_, fun entry => entry?_eq_some_iff, ?_⟩
  · rw [exists_entry?_iff, ← and_assoc]
    refine and_congr_left fun ⟨value, _, found, _⟩ => ?_
    -- Members are found in objects only.
    cases item with
    | object members => exact (and_iff_right ⟨members, rfl⟩).symm
    | _ => cases found
  · intro path old content edited there useless still isEdited kept
    exact entry?_edit there useless still isEdited kept

/-- An item with a number as its identifier, and with some title in its published data. -/
def titled (title : List (String × Value)) : Value :=
  .object [("uid", .number (.integer 7)), ("status", .text "Published"),
    ("draftData", .object [("title", .text "T")]),
    ("data", .object (("image", .object [("standard", .text "")]) :: title))]

/-- Where the title of the data is no text, the draft gives one, as it does where it is missing. -/
theorem entry?_described_untitled :
    entry? "Quiz " (titled [("title", .boolean true)]) = some ⟨"7", "T", .unpublished, none⟩ ∧
      entry? "Quiz " (titled []) = entry? "Quiz " (titled [("title", .boolean true)]) := by
  obtain ⟨_, _, edits⟩ := entry?_described "Quiz " (titled [("title", .boolean true)])
  refine ⟨by decide, edits ["data", "title"] (.boolean true) none _ rfl ?_ nofun rfl ?_⟩
  · rintro ⟨kind, member, fits⟩
    cases kind with
    | text => obtain ⟨_, isText⟩ := fits; cases isText
    | _ => exact absurd member (by decide)
  · intro _ source known _
    obtain rfl | rfl : source = "data" ∨ source = "draftData" := by simpa [sources] using known
    · exact ⟨_, rfl, by simp⟩
    · exact ⟨_, rfl, by simp⟩

-- Without the only member there is no data, and no entry.
example : entry? "Quiz " (.object [("uid", .text "u"), ("data", .object [("title", .null)])]) =
    some ⟨"u", "Quiz u", .unpublished, none⟩ := by
  decide

end Projection
end QuizFeed
