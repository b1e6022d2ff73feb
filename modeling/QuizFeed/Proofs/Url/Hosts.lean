import QuizFeed.Proofs.Url.Addresses
import QuizFeed.Proofs.Url.Percent
import QuizFeed.Url.Host

/-!
# Hosts are read as they are written

The host that is read from a text is the host that is read from its own text
(`isSettled_of_readAs`). It is either an address in brackets or has no character that ends a host.
-/

namespace QuizFeed.Url.Host

open Domain (IsPlain toAscii)

variable {kind : Kind} {text host name : List Char} {character : Char}

/-- Reads a host as the kind of its url demands. -/
def readAs (kind : Kind) (text : List Char) : Except Failure (List Char) :=
  if kind = .plain then readPlain text else readSpecial text

/-- Whether a character may stand in a host outside brackets. -/
def IsInner (character : Char) : Prop :=
  0x20 < character.toNat ∧ character ∉ ['#', '/', ':', '?', '@', '[', '\\', ']', '|']

/-- Whether a text has the characters of a host: those of an address in brackets, or others. -/
def IsWritten (host : List Char) : Prop :=
  (∃ address, host = '[' :: address ++ [']'] ∧
    ∀ character ∈ address, character = ':' ∨ (Percent.hexValue? character).isSome) ∨
  ∀ character ∈ host, IsInner character

/-- A host that is read from its own text. -/
structure IsSettled (kind : Kind) (host : List Char) : Prop where
  written : IsWritten host
  again : readAs kind host = .ok host

/-- An address that is read in brackets has the characters of a host. -/
theorem isWritten_of_readBracketed (read : readBracketed text = .ok host) : IsWritten host := by
  unfold readBracketed at read
  split at read
  case isFalse => cases read
  case isTrue =>
    split at read
    case h_2 => cases read
    case h_1 pieces _ =>
      cases read
      exact .inl ⟨Address.writeIpv6 pieces, rfl, fun character => Address.mem_writeIpv6⟩

/-- An address that is read in brackets is in them, and is read as itself. -/
theorem readBracketed_again (read : readBracketed text = .ok host) :
    host.head? = some '[' ∧ readBracketed host = .ok host := by
  unfold readBracketed at read
  split at read
  case isFalse => cases read
  case isTrue =>
    split at read
    case h_2 => cases read
    case h_1 pieces isRead =>
      cases read
      have again := Address.readIpv6_writeIpv6 (Address.isPieces_of_readIpv6 isRead)
      refine ⟨rfl, ?_⟩
      rw [readBracketed, if_pos (List.getLast?_concat ..), List.cons_append, List.drop_one,
        List.tail_cons, List.dropLast_concat, again]
      rfl

/-- A name that is its own ASCII form is read as such. -/
theorem readSpecial_of_toAscii
    (plain : ∀ character ∈ name, IsPlain character ∧ Domain.isForbidden character = false)
    (same : toAscii name = some name) :
    readSpecial name =
      if name.isEmpty then .error .emptyHost
      else if Address.endsInNumber name then
        match Address.readIpv4 name with
        | some address => .ok (Address.writeIpv4 address)
        | none => .error .invalidIpv4
      else .ok name := by
  have absent {character : Char} (forbidden : Domain.isForbidden character = true) :
      character ∉ name := by
    intro inside
    rw [(plain character inside).2] at forbidden
    exact Bool.false_ne_true forbidden
  have noBracket : name.head? ≠ some '[' := by
    intro first
    exact absent (by decide) (List.mem_of_head? first)
  rw [readSpecial, if_neg noBracket, Percent.fromUTF8?_decode (absent (by decide)),
    Option.bind_some, String.toList_ofList]
  generalize toAscii name = ascii at same
  subst same
  rfl

/-- A character that is not forbidden may stand in a host. -/
theorem isInner_of_not_isForbidden (allowed : Domain.isForbidden character = false) :
    IsInner character := by
  simp only [Domain.isForbidden, Bool.or_eq_false_iff, decide_eq_false_iff_not,
    List.contains_eq_mem, List.mem_cons, not_or] at allowed
  refine ⟨Nat.not_le.mp allowed.1.1, ?_⟩
  simp only [List.mem_cons, not_or]
  tauto

/-- Digits and dots stand for themselves, and are not forbidden. -/
theorem plain_of_mem_writeIpv4 {address : Nat} (found : character ∈ Address.writeIpv4 address) :
    IsPlain character ∧ Domain.isForbidden character = false := by
  have all : ∀ code < 58, 46 ≤ code → code ≠ 47 → Domain.isAscii (Char.ofNat code) = true ∧
      Domain.lowerAscii (Char.ofNat code) = Char.ofNat code ∧
      Domain.isForbidden (Char.ofNat code) = false := by decide
  have inRange : character.toNat < 58 ∧ 46 ≤ character.toNat ∧ character.toNat ≠ 47 := by
    rcases Address.mem_writeIpv4 found with rfl | digit
    · decide
    · omega
  obtain ⟨ascii, lower, allowed⟩ := all _ inRange.1 inRange.2.1 inRange.2.2
  rw [Char.ofNat_toNat] at ascii lower allowed
  exact ⟨⟨ascii, lower⟩, allowed⟩

/-- An address of four bytes is its own ASCII form. -/
theorem toAscii_writeIpv4 (address : Nat) :
    toAscii (Address.writeIpv4 address) = some (Address.writeIpv4 address) := by
  refine Domain.toAscii_of_isPlain (fun character found => (plain_of_mem_writeIpv4 found).1)
    (fun character found => (plain_of_mem_writeIpv4 found).2) fun label listed => ?_
  rw [Address.splitAt_writeIpv4] at listed
  obtain ⟨byte, _, rfl⟩ := List.mem_map.mp listed
  obtain ⟨first, others, digits⟩ :=
    List.exists_cons_of_ne_nil (Nat.toDigits_ne_nil : Nat.toDigits 10 byte ≠ [])
  have digit := Address.digit_of_mem_toDigits (digits ▸ List.mem_cons_self)
  have noMark : first ≠ 'x' := by
    rintro rfl
    revert digit
    decide
  rw [digits, Domain.encodedMark, List.isPrefixOf_cons_cons, beq_eq_false_iff_ne.mpr noMark.symm]
  rfl

/-- An address of four bytes is written with some characters. -/
theorem writeIpv4_ne_nil (address : Nat) : Address.writeIpv4 address ≠ [] := by
  intro empty
  have split := Address.splitAt_writeIpv4 address
  rw [empty] at split
  have := congrArg List.length split
  simp [Domain.splitAt, Address.bytesOf] at this

/-- The host of a url with a special scheme is not empty, and is read from its own text. -/
theorem readSpecial_again (read : readSpecial text = .ok host) :
    host ≠ [] ∧ IsWritten host ∧ readSpecial host = .ok host := by
  unfold readSpecial at read
  split at read
  case isTrue bracket =>
    obtain ⟨first, again⟩ := readBracketed_again read
    refine ⟨?_, isWritten_of_readBracketed read, ?_⟩
    · rintro rfl
      cases first
    · rw [readSpecial, if_pos first, again]
  case isFalse =>
    split at read
    case h_1 => cases read
    case h_2 name isName =>
      obtain ⟨decoded, _, isAsciiForm⟩ := Option.bind_eq_some_iff.mp isName
      have plain (character) (found : character ∈ name) :=
        Domain.isPlain_of_toAscii isAsciiForm found
      have whole := readSpecial_of_toAscii plain (Domain.toAscii_of_toAscii isAsciiForm)
      split at read
      case isTrue => cases read
      case isFalse notEmpty =>
        split at read
        case isFalse noNumber =>
          cases read
          refine ⟨by simpa using notEmpty, .inr fun character inside => ?_, ?_⟩
          · exact isInner_of_not_isForbidden (plain character inside).2
          · rw [whole, if_neg notEmpty, if_neg noNumber]
        case isTrue =>
          split at read
          case h_2 => cases read
          case h_1 address isAddress =>
            cases read
            have fits := Address.lt_of_readIpv4 isAddress
            refine ⟨writeIpv4_ne_nil address, .inr fun character inside => ?_, ?_⟩
            · exact isInner_of_not_isForbidden (plain_of_mem_writeIpv4 inside).2
            · rw [readSpecial_of_toAscii (fun character => plain_of_mem_writeIpv4)
                (toAscii_writeIpv4 address), if_neg (by simpa using writeIpv4_ne_nil address),
                if_pos (Address.endsInNumber_writeIpv4 address),
                Address.readIpv4_writeIpv4 fits]

/-- A visible character that is not forbidden may stand in a host. -/
theorem isInner_of_kept (kept : isForbidden character = false ∧ 0x20 ≤ character.toNat) :
    IsInner character := by
  obtain ⟨allowed, visible⟩ := kept
  simp only [isForbidden, List.contains_eq_mem, List.mem_cons, not_or, decide_eq_false_iff_not]
    at allowed
  have noSpace : character.toNat ≠ 0x20 := by
    intro same
    exact absurd (Char.toNat_inj.mp (same.trans (rfl : _ = ' '.toNat))) (by tauto)
  refine ⟨Nat.lt_of_le_of_ne visible noSpace.symm, ?_⟩
  simp only [List.mem_cons, not_or]
  tauto

/-- The host of a url with any other scheme is read from its own text. -/
theorem readPlain_again (read : readPlain text = .ok host) :
    IsWritten host ∧ readPlain host = .ok host := by
  unfold readPlain at read
  split at read
  case isTrue =>
    obtain ⟨first, again⟩ := readBracketed_again read
    refine ⟨isWritten_of_readBracketed read, ?_⟩
    rw [readPlain, if_pos first, again]
  case isFalse =>
    split at read
    case isTrue => cases read
    case isFalse allowed =>
      cases read
      have kept (character) (found : character ∈ Percent.encode Percent.isControl text) :
          isForbidden character = false ∧ 0x20 ≤ character.toNat := by
        rcases Percent.mem_encode found with code | ⟨inside, notControl⟩
        · refine ⟨?_, ?_⟩
          · rw [isForbidden, List.contains_eq_mem, decide_eq_false_iff_not]
            exact code.notMem (by decide)
          · rcases code with rfl | digit | letter
            · decide
            · omega
            · omega
        · refine ⟨by simpa using List.any_eq_false.mp (by simpa using allowed) character inside, ?_⟩
          simp only [Percent.isControl, Bool.or_eq_false_iff, decide_eq_false_iff_not] at notControl
          omega
      refine ⟨.inr fun character found => isInner_of_kept (kept character found), ?_⟩
      have noBracket : (Percent.encode Percent.isControl text).head? ≠ some '[' := by
        intro first
        exact absurd (kept '[' (List.mem_of_head? first)).1 (by decide)
      have noneForbidden : ¬ (Percent.encode Percent.isControl text).any isForbidden = true := by
        simpa using fun character found => (kept character found).1
      rw [readPlain, if_neg noBracket, if_neg noneForbidden,
        Percent.encode_encode fun _ code => code.not_isControl]

/-- The host that is read from a text is read from its own text. -/
theorem isSettled_of_readAs (read : readAs kind text = .ok host) : IsSettled kind host := by
  unfold readAs at read
  split at read
  case isTrue isPlain =>
    obtain ⟨written, again⟩ := readPlain_again read
    exact ⟨written, by rwa [readAs, if_pos isPlain]⟩
  case isFalse notPlain =>
    obtain ⟨_, written, again⟩ := readSpecial_again read
    exact ⟨written, by rwa [readAs, if_neg notPlain]⟩

/-- No character of a host ends it or makes it a user name. -/
theorem IsWritten.of_mem (written : IsWritten host) (found : character ∈ host) :
    0x20 < character.toNat ∧ character ∉ ['#', '/', '?', '@', '\\'] := by
  rcases written with ⟨address, rfl, digits⟩ | inner
  · simp only [List.cons_append, List.mem_cons, List.mem_append, List.not_mem_nil, or_false]
      at found
    rcases found with rfl | inside | rfl
    · decide
    · rcases digits character inside with rfl | digit
      · decide
      · obtain ⟨value, found⟩ := Option.isSome_iff_exists.mp digit
        have range := (Address.hexValue?_cases found).2
        refine ⟨by omega, fun listed => ?_⟩
        have all : ∀ other ∈ ['#', '/', '?', '@', '\\'], ¬ (48 ≤ other.toNat ∧ other.toNat ≤ 57) ∧
            ¬ (97 ≤ other.toNat ∧ other.toNat ≤ 102) ∧
            ¬ (65 ≤ other.toNat ∧ other.toNat ≤ 70) := List.all_iff_forall_prop.mp (by decide)
        have := all character listed
        omega
    · decide
  · obtain ⟨visible, apart⟩ := inner character found
    refine ⟨visible, ?_⟩
    simp only [List.mem_cons, not_or] at apart ⊢
    tauto

/-- A host does not start with a colon. -/
theorem IsWritten.first_ne_colon {first : Char} {others : List Char} (written : IsWritten host)
    (isFirst : host = first :: others) : first ≠ ':' := by
  subst isFirst
  rcases written with ⟨address, bracketed, _⟩ | inner
  · rw [(List.cons.inj bracketed).1]
    decide
  · rintro rfl
    exact absurd (inner ':' List.mem_cons_self).2 (by decide)

/-- With a dot behind it, a host is none or another one. -/
theorem readPlain_extended (again : readPlain host = .ok host) (after : List Char) :
    readPlain (host ++ '.' :: after) ≠ .ok host := by
  intro read
  unfold readPlain at again read
  by_cases bracket : host.head? = some '['
  · obtain ⟨rest, rfl⟩ := List.head?_eq_some_iff.mp bracket
    rw [if_pos bracket] at again
    rw [if_pos (by simp)] at read
    have closed : ∃ address, '[' :: rest = '[' :: address ++ [']'] := by
      rcases isWritten_of_readBracketed again with ⟨address, isBracketed, _⟩ | inner
      · exact ⟨address, isBracketed⟩
      · exact absurd (inner '[' List.mem_cons_self).2 (by decide)
    obtain ⟨address, isBracketed⟩ := closed
    unfold readBracketed at read
    split at read
    case isFalse => cases read
    case isTrue =>
      split at read
      case h_2 => cases read
      case h_1 pieces isAddress =>
        have inside : ']' ∈ ((('[' :: rest) ++ '.' :: after).drop 1).dropLast := by
          rw [isBracketed]
          simp
        have character := Address.isAddressCharacter_of_readIpv6 isAddress inside
        revert character
        unfold Address.IsAddressCharacter
        decide
  · have noBracket : (host ++ '.' :: after).head? ≠ some '[' := by
      cases host <;> simp_all
    rw [if_neg bracket] at again
    rw [if_neg noBracket] at read
    split at again
    case isTrue => cases again
    case isFalse =>
      split at read
      case isTrue => cases read
      case isFalse =>
        have same := Except.ok.inj read
        rw [Percent.encode_append, Except.ok.inj again, List.append_right_eq_self] at same
        exact Percent.encode_ne_nil _ (by simp) same

end QuizFeed.Url.Host
