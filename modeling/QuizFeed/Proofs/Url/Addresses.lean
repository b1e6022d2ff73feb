import QuizFeed.Proofs.Ron.Quoted
import QuizFeed.Proofs.Url.Names
import QuizFeed.Url.Address

/-!
# Numeric hosts are read as they are written

An address of four bytes is read back from its decimal bytes (`readIpv4_writeIpv4`), and one of
eight pieces from its hexadecimal pieces, with or without a run of zeros left out
(`readIpv6_writeIpv6`). What `readIpv6` gives are always eight pieces of 16 bits.
-/

namespace QuizFeed.Url.Address

open Domain (joinWith splitAt)
open Percent (hexValue?)

section FourBytes

variable {byte address : Nat} {name : List Char}

/-- A byte is read from its digits. -/
theorem part?_toDigits (small : byte < 256) : part? (Nat.toDigits 10 byte) = some byte := by
  have all : ∀ byte : Fin 256, part? (Nat.toDigits 10 byte) = some byte.val := by decide +kernel
  exact all ⟨byte, small⟩

/-- The digits of a number lie between the first and the last. -/
theorem digit_of_mem_toDigits {digit : Char} (found : digit ∈ Nat.toDigits 10 byte) :
    48 ≤ digit.toNat ∧ digit.toNat ≤ 57 := by
  have decimal := Nat.isDigit_of_mem_toDigits (by decide) (by decide) found
  exact Char.isDigit_iff_toNat.mp decimal

/-- No number has a dot in it. -/
theorem dot_notMem_toDigits (byte : Nat) : '.' ∉ Nat.toDigits 10 byte := by
  intro found
  have := digit_of_mem_toDigits found
  revert this
  decide

/-- The bytes of an address, the highest first. -/
def bytesOf (address : Nat) : List Nat :=
  [address / 256 ^ 3 % 256, address / 256 ^ 2 % 256, address / 256 % 256, address % 256]

/-- An address is written as its bytes with dots between them. -/
theorem writeIpv4_eq (address : Nat) :
    writeIpv4 address = joinWith '.' ((bytesOf address).map (Nat.toDigits 10)) := by
  simp [writeIpv4, bytesOf]

/-- An address is split into its bytes at the dots. -/
theorem splitAt_writeIpv4 (address : Nat) :
    splitAt '.' (writeIpv4 address) = (bytesOf address).map (Nat.toDigits 10) := by
  rw [writeIpv4_eq, Domain.splitAt_joinWith (by simp [bytesOf])]
  intro part listed
  obtain ⟨byte, _, rfl⟩ := List.mem_map.mp listed
  exact dot_notMem_toDigits byte

/-- The parts of an address are its bytes. -/
theorem parts_writeIpv4 (address : Nat) :
    parts (writeIpv4 address) = (bytesOf address).map (Nat.toDigits 10) := by
  simp [parts, splitAt_writeIpv4, bytesOf]

/-- An address is read back from its four bytes. -/
theorem readIpv4_writeIpv4 (fits : address < 256 ^ 4) :
    readIpv4 (writeIpv4 address) = some address := by
  have numbers : (parts (writeIpv4 address)).mapM part? = some (bytesOf address) := by
    have below (place : Nat) := part?_toDigits (Nat.mod_lt place (by decide : 256 > 0))
    simp [parts_writeIpv4, bytesOf, below]
  have whole : ((address / 256 ^ 3 % 256 * 256 + address / 256 ^ 2 % 256) * 256 +
      address / 256 % 256) * 256 + address % 256 = address := by omega
  have bytes (place : Nat) : place % 256 ≤ 255 := by omega
  rw [readIpv4, numbers]
  simp [bytesOf, bytes, Nat.mod_lt]
  omega

/-- Four bytes end in a number. -/
theorem endsInNumber_writeIpv4 (address : Nat) : endsInNumber (writeIpv4 address) = true := by
  have below := part?_toDigits (Nat.mod_lt address (by decide : 256 > 0))
  simp [endsInNumber, parts_writeIpv4, bytesOf, below]

/-- An address is written with digits and dots. -/
theorem mem_writeIpv4 {character : Char} (found : character ∈ writeIpv4 address) :
    character = '.' ∨ (48 ≤ character.toNat ∧ character.toNat ≤ 57) := by
  rw [writeIpv4_eq] at found
  rcases Domain.mem_joinWith found with same | ⟨part, listed, inside⟩
  · exact .inl same
  · obtain ⟨byte, _, rfl⟩ := List.mem_map.mp listed
    exact .inr (digit_of_mem_toDigits inside)

/-- Bytes after one another are less than the weight of the next place. -/
theorem foldl_bytes_lt {bytes : List Nat} (small : ∀ byte ∈ bytes, byte ≤ 255) (total : Nat) :
    bytes.foldl (fun total byte => total * 256 + byte) total <
      (total + 1) * 256 ^ bytes.length := by
  induction bytes generalizing total with
  | nil => simp
  | cons byte rest inductionHypothesis =>
    obtain ⟨first, others⟩ := List.forall_mem_cons.mp small
    calc rest.foldl (fun total byte => total * 256 + byte) (total * 256 + byte)
        < (total * 256 + byte + 1) * 256 ^ rest.length := inductionHypothesis others _
      _ ≤ ((total + 1) * 256) * 256 ^ rest.length := Nat.mul_le_mul_right _ (by omega)
      _ = (total + 1) * 256 ^ (byte :: rest).length := by
        rw [List.length_cons, Nat.pow_succ, Nat.mul_assoc, Nat.mul_comm 256]

/-- An address that is read has four bytes. -/
theorem lt_of_readIpv4 (read : readIpv4 name = some address) : address < 256 ^ 4 := by
  unfold readIpv4 at read
  obtain ⟨numbers, _, read⟩ := Option.bind_eq_some_iff.mp read
  obtain ⟨last, _, read⟩ := Option.bind_eq_some_iff.mp read
  dsimp only at read
  split at read
  case isTrue => cases read
  case isFalse fits =>
    simp only [List.any_eq_true, decide_eq_true_eq, not_or, not_exists, not_and, not_lt] at fits
    obtain ⟨short, small, below⟩ := fits
    have leading := foldl_bytes_lt small 0
    rw [Nat.zero_add, Nat.one_mul] at leading
    cases read
    set scale := 256 ^ (4 - numbers.dropLast.length) with isScale
    calc _ < numbers.dropLast.foldl (fun total byte => total * 256 + byte) 0 * scale + scale := by
          exact Nat.add_lt_add_left (Nat.not_le.mp below) _
      _ = (numbers.dropLast.foldl (fun total byte => total * 256 + byte) 0 + 1) * scale := by
          rw [Nat.add_mul, Nat.one_mul]
      _ ≤ 256 ^ numbers.dropLast.length * scale := Nat.mul_le_mul_right _ leading
      _ = 256 ^ 4 := by rw [isScale, ← Nat.pow_add, Nat.add_sub_cancel' (by omega)]

end FourBytes

/-- A hexadecimal digit is a digit or one of six letters, and its value is below 16. -/
theorem hexValue?_cases {digit : Char} {value : Nat} (found : hexValue? digit = some value) :
    value < 16 ∧ ((48 ≤ digit.toNat ∧ digit.toNat ≤ 57) ∨
      (97 ≤ digit.toNat ∧ digit.toNat ≤ 102) ∨ (65 ≤ digit.toNat ∧ digit.toNat ≤ 70)) := by
  unfold hexValue? at found
  dsimp only at found
  split at found
  · cases found
    omega
  · split at found
    · cases found
      omega
    · split at found
      · cases found
        omega
      · cases found

section EightPieces

variable {piece value count limit fuel : Nat} {pieces gathered before after : List Nat}
  {gap : Option Nat} {text rest : List Char}

/-- The pieces of an address. -/
structure IsPieces (pieces : List Nat) : Prop where
  length : pieces.length = 8
  small : ∀ piece ∈ pieces, piece < 16 ^ 4

/-- Digits are read up to a character that is none, if they are no more than may be read. -/
theorem hexDigits_append {digits : List Char}
    (areDigits : ∀ digit ∈ digits, (hexValue? digit).isSome)
    (fits : digits.length ≤ limit) (ends : ∀ next ∈ rest.head?, hexValue? next = none) :
    hexDigits limit value count (digits ++ rest) =
      (Ron.Reader.hexadecimalValue value digits, count + digits.length, rest) := by
  induction digits generalizing limit value count with
  | nil =>
    cases rest with
    | nil => simp [hexDigits, Ron.Reader.hexadecimalValue]
    | cons next others =>
      have noDigit := ends next rfl
      cases limit <;> simp [hexDigits, noDigit, Ron.Reader.hexadecimalValue]
  | cons digit digits inductionHypothesis =>
    obtain ⟨isDigit, others⟩ := List.forall_mem_cons.mp areDigits
    obtain ⟨worth, found⟩ := Option.isSome_iff_exists.mp isDigit
    obtain ⟨limit, rfl⟩ : ∃ fewer, limit = fewer + 1 := ⟨limit - 1, by simp at fits; omega⟩
    have again : Ron.Reader.hexadecimalValue value (digit :: digits) =
        Ron.Reader.hexadecimalValue (value * 16 + worth) digits := by
      change Ron.Reader.hexadecimalValue (value * 16 + (hexValue? digit).getD 0) digits = _
      rw [found, Option.getD_some]
    have step : hexDigits (limit + 1) value count (digit :: digits ++ rest) =
        hexDigits limit (value * 16 + worth) (count + 1) (digits ++ rest) := by
      simp [hexDigits, found]
    rw [step, again, inductionHypothesis others (by simpa using fits), List.length_cons,
      Nat.add_assoc, Nat.add_comm 1]

/-- A number is written with digits of its base. -/
theorem isSome_hexValue? {digit : Char} (found : digit ∈ Nat.toDigits 16 piece) :
    (hexValue? digit).isSome :=
  Ron.Reader.hexadecimal?_of_mem found

/-- A piece is read back from its digits. -/
theorem hexDigits_toDigits (small : piece < 16 ^ 4)
    (ends : ∀ next ∈ rest.head?, hexValue? next = none) :
    hexDigits 4 0 0 (Nat.toDigits 16 piece ++ rest) =
      (piece, (Nat.toDigits 16 piece).length, rest) := by
  rw [hexDigits_append (fun digit => isSome_hexValue?)
    ((Nat.length_toDigits_le_iff (by decide) (by decide)).mpr small) ends, Nat.zero_add]
  exact congrArg (·, _, rest) (Ron.Reader.hexadecimalValue_hexadecimal piece)

/-- A piece starts with a digit, and not with a colon. -/
theorem exists_toDigits (piece : Nat) :
    ∃ first others, Nat.toDigits 16 piece = first :: others ∧ first ≠ ':' := by
  have notNil : Nat.toDigits 16 piece ≠ [] := Nat.toDigits_ne_nil
  obtain ⟨first, others, digits⟩ := List.exists_cons_of_ne_nil notNil
  refine ⟨first, others, digits, ?_⟩
  rintro rfl
  have isDigit : (hexValue? ':').isSome :=
    isSome_hexValue? (digits ▸ List.mem_cons_self)
  exact absurd isDigit (by decide)

/-- Pieces with a colon between each two. -/
def writePieces (pieces : List Nat) : List Char :=
  joinWith ':' (pieces.map (Nat.toDigits 16))

/-- The last piece of a text is read. -/
theorem readPieces_last (small : piece < 16 ^ 4) (room : gathered.length < 8) :
    readPieces (fuel + 1) gathered gap (Nat.toDigits 16 piece) =
      some (piece :: gathered, gap) := by
  obtain ⟨first, others, digits, noColon⟩ := exists_toDigits piece
  have read : hexDigits 4 0 0 (Nat.toDigits 16 piece ++ []) = _ :=
    hexDigits_toDigits small (by simp)
  rw [List.append_nil] at read
  rw [digits] at read ⊢
  simp [readPieces, Nat.not_le.mpr room, noColon, read]

/-- A piece before a colon is read, and what follows the colon is read next. -/
theorem readPieces_next (small : piece < 16 ^ 4) (room : gathered.length < 8)
    (more : rest ≠ []) :
    readPieces (fuel + 1) gathered gap (Nat.toDigits 16 piece ++ ':' :: rest) =
      readPieces fuel (piece :: gathered) gap rest := by
  obtain ⟨first, others, digits, noColon⟩ := exists_toDigits piece
  have noDigit : hexValue? ':' = none := by decide
  have read : hexDigits 4 0 0 (Nat.toDigits 16 piece ++ ':' :: rest) = _ :=
    hexDigits_toDigits small (by simp [noDigit])
  rw [digits, List.cons_append] at read ⊢
  simp [readPieces, Nat.not_le.mpr room, noColon, read, more]

/-- Two pieces have a colon between them. -/
theorem writePieces_cons_cons (piece : Nat) (others : List Nat) (next : Nat) :
    writePieces (piece :: next :: others) =
      Nat.toDigits 16 piece ++ ':' :: writePieces (next :: others) :=
  rfl

/-- Pieces are written with some characters. -/
theorem writePieces_ne_nil (piece : Nat) (others : List Nat) :
    writePieces (piece :: others) ≠ [] := by
  cases others with
  | nil => exact Nat.toDigits_ne_nil
  | cons next others => simp [writePieces_cons_cons]

/-- The pieces that end a text are read. -/
theorem readPieces_writePieces (small : ∀ piece ∈ pieces, piece < 16 ^ 4)
    (room : gathered.length + pieces.length ≤ 8) (enough : pieces.length ≤ fuel) :
    readPieces fuel gathered gap (writePieces pieces) = some (pieces.reverse ++ gathered, gap) := by
  induction pieces generalizing gathered fuel with
  | nil => simp [writePieces, joinWith, readPieces]
  | cons piece others inductionHypothesis =>
    obtain ⟨first, rest⟩ := List.forall_mem_cons.mp small
    rw [List.length_cons] at room enough
    obtain ⟨fuel, rfl⟩ : ∃ fewer, fuel = fewer + 1 := ⟨fuel - 1, by omega⟩
    cases others with
    | nil => exact readPieces_last first (by omega)
    | cons next others =>
      rw [writePieces_cons_cons, readPieces_next first (by omega) (writePieces_ne_nil _ _),
        inductionHypothesis rest (by simp only [List.length_cons] at room ⊢; omega) (by omega)]
      simp

/-- The place where zeros are left out is kept. -/
theorem readPieces_gap (room : gathered.length < 8) :
    readPieces (fuel + 1) gathered none (':' :: rest) =
      readPieces fuel (0 :: gathered) (some (gathered.length + 1)) rest := by
  simp [readPieces, Nat.not_le.mpr room]

/-- The pieces before the place where zeros are left out are read, and the place is kept. -/
theorem readPieces_elided (small : ∀ piece ∈ before, piece < 16 ^ 4) (notNil : before ≠ [])
    (room : gathered.length + before.length < 8) :
    readPieces (fuel + 1 + before.length) gathered none
        (writePieces before ++ ':' :: ':' :: rest) =
      readPieces fuel (0 :: (before.reverse ++ gathered))
        (some (gathered.length + before.length + 1)) rest := by
  induction before generalizing gathered with
  | nil => exact absurd rfl notNil
  | cons piece others inductionHypothesis =>
    obtain ⟨first, later⟩ := List.forall_mem_cons.mp small
    rw [List.length_cons] at room
    rw [List.length_cons, ← Nat.add_assoc]
    cases others with
    | nil =>
      exact (readPieces_next first (by omega) (by simp)).trans
        (readPieces_gap (by simpa using room))
    | cons next others =>
      rw [writePieces_cons_cons, List.append_assoc, List.cons_append,
        readPieces_next first (by omega) (by simp [writePieces_ne_nil]),
        inductionHypothesis later (by simp)
          (by simp only [List.length_cons] at room ⊢; omega)]
      simp [Nat.add_comm, Nat.add_left_comm]

/-- Whether a run of zeros stands at a place among pieces. -/
def IsZeroRun (pieces : List Nat) (run : Nat × Nat) : Prop :=
  List.replicate run.2 0 <+: pieces.drop run.1

/-- The longest run of zeros is one. -/
theorem isZeroRun_longestZeros (pieces : List Nat) : IsZeroRun pieces (longestZeros pieces) := by
  have chosen {runs : List (Nat × Nat)} (zeros : ∀ run ∈ runs, IsZeroRun pieces run)
      {best : Nat × Nat} (isRun : IsZeroRun pieces best) :
      IsZeroRun pieces
        (runs.foldl (fun best run => if run.2 > best.2 then run else best) best) := by
    induction runs generalizing best with
    | nil => exact isRun
    | cons run others inductionHypothesis =>
      obtain ⟨first, later⟩ := List.forall_mem_cons.mp zeros
      rw [List.foldl_cons]
      split
      · exact inductionHypothesis later first
      · exact inductionHypothesis later isRun
  refine chosen (fun run listed => ?_) (List.nil_prefix)
  obtain ⟨start, _, rfl⟩ := List.mem_map.mp listed
  unfold IsZeroRun
  have zeros : (pieces.drop start).takeWhile (· == 0) =
      List.replicate ((pieces.drop start).takeWhile (· == 0)).length 0 := by
    refine List.eq_replicate_of_mem fun piece inside => ?_
    simpa using List.mem_takeWhile_imp inside
  rw [← zeros]
  exact List.takeWhile_prefix _

/-- The pieces of an address are those before the zeros that are left out, the zeros, and those
behind them. -/
theorem eq_append_of_isZeroRun {start length : Nat} (isRun : IsZeroRun pieces (start, length)) :
    pieces = pieces.take start ++ List.replicate length 0 ++ pieces.drop (start + length) := by
  obtain ⟨others, whole⟩ := isRun
  dsimp only at whole
  have behind : pieces.drop (start + length) = others := by
    rw [← List.drop_drop, ← whole, List.drop_left' List.length_replicate]
  rw [behind, List.append_assoc, whole, List.take_append_drop]

/-- The address whose pieces were gathered, with zeros in the gap. -/
def complete : List Nat × Option Nat → Option (List Nat)
  | (gathered, none) => if gathered.reverse.length = 8 then some gathered.reverse else none
  | (gathered, some gap) =>
    if gathered.reverse.length > 8 then none
    else some (gathered.reverse.take gap ++ List.replicate (8 - gathered.reverse.length) 0 ++
      gathered.reverse.drop gap)

/-- A gap between pieces is filled with zeros up to eight. -/
theorem complete_gap (room : before.length + after.length < 8) :
    complete (after.reverse ++ 0 :: before.reverse, some (before.length + 1)) =
      some (before ++ List.replicate (8 - before.length - after.length) 0 ++ after) := by
  have gathered : (after.reverse ++ 0 :: before.reverse).reverse = (before ++ [0]) ++ after := by
    simp
  have zeros : 8 - before.length - after.length =
      (8 - (before.length + 1 + after.length)) + 1 := by omega
  have short : ¬ before.length + 1 + after.length > 8 := by omega
  simp only [complete, gathered, List.length_append, List.length_singleton, if_neg short]
  rw [List.take_left' (by simp), List.drop_left' (by simp), zeros, List.replicate_succ]
  simp

/-- An address may start with a gap. -/
theorem readIpv6_colons (rest : List Char) :
    readIpv6 (':' :: ':' :: rest) =
      (readPieces (rest.length + 2) [0] (some 1) rest).bind complete := by
  rw [readIpv6, if_neg (by simp)]
  refine congrArg (readPieces (rest.length + 2) [0] (some 1) rest).bind (funext ?_)
  rintro ⟨gathered, gap | gap⟩ <;> rfl

/-- An address that does not start with a gap is read piece by piece. -/
theorem readIpv6_cons {first : Char} (noColon : first ≠ ':') (some : rest ≠ []) :
    readIpv6 (first :: rest) =
      (readPieces (rest.length + 1) [] none (first :: rest)).bind complete := by
  have long : ¬ (first :: rest).length < 2 := by
    have := List.length_pos_iff.mpr some
    simp only [List.length_cons]
    omega
  rw [readIpv6, if_neg long]
  dsimp only [List.length_cons]
  split
  case h_1 _ _ same => exact absurd (List.cons.inj same).1 noColon
  case h_2 _ _ same => exact absurd (List.cons.inj same).1 noColon
  case h_3 =>
    refine congrArg (readPieces (rest.length + 1) [] none (first :: rest)).bind (funext ?_)
    rintro ⟨gathered, gap | gap⟩ <;> rfl

/-- What is written for pieces does not start with a colon. -/
theorem exists_writePieces (piece : Nat) (others : List Nat) :
    ∃ first rest, writePieces (piece :: others) = first :: rest ∧ first ≠ ':' := by
  obtain ⟨first, rest, digits, noColon⟩ := exists_toDigits piece
  cases others with
  | nil => exact ⟨first, rest, digits, noColon⟩
  | cons next others =>
    exact ⟨first, rest ++ ':' :: writePieces (next :: others),
      by rw [writePieces_cons_cons, digits, List.cons_append], noColon⟩

/-- Every piece takes at least one character. -/
theorem length_le_length_writePieces (pieces : List Nat) :
    pieces.length ≤ (writePieces pieces).length := by
  induction pieces with
  | nil => simp
  | cons piece others inductionHypothesis =>
    cases others with
    | nil => exact Nat.length_toDigits_pos
    | cons next others =>
      rw [writePieces_cons_cons, List.length_append, List.length_cons,
        List.length_cons (a := ':')]
      omega

/-- An address whose pieces are all written is read back. -/
theorem readIpv6_writePieces (isPieces : IsPieces pieces) :
    readIpv6 (writePieces pieces) = some pieces := by
  have enough := length_le_length_writePieces pieces
  have read : readPieces (writePieces pieces).length [] none (writePieces pieces) =
      some (pieces.reverse ++ [], none) :=
    readPieces_writePieces isPieces.small (by simp [isPieces.length]) enough
  obtain ⟨piece, others, rfl⟩ : ∃ piece others, pieces = piece :: others :=
    List.exists_cons_of_length_pos (by simp [isPieces.length])
  obtain ⟨first, rest, text, noColon⟩ := exists_writePieces piece others
  have some : rest ≠ [] := by
    rintro rfl
    rw [text, isPieces.length] at enough
    simp at enough
  rw [text] at read ⊢
  rw [readIpv6_cons noColon some, ← List.length_cons, read, Option.bind_some, List.append_nil]
  simp [complete, ← isPieces.length]

/-- An address is read back with zeros where they are left out. -/
theorem readIpv6_elided (smallBefore : ∀ piece ∈ before, piece < 16 ^ 4)
    (smallAfter : ∀ piece ∈ after, piece < 16 ^ 4) (room : before.length + after.length < 8) :
    readIpv6 (writePieces before ++ ':' :: ':' :: writePieces after) =
      some (before ++ List.replicate (8 - before.length - after.length) 0 ++ after) := by
  have enoughAfter := length_le_length_writePieces after
  rw [← complete_gap room]
  cases isBefore : before with
  | nil =>
    rw [isBefore, List.length_nil] at room
    change readIpv6 (':' :: ':' :: writePieces after) = _
    rw [readIpv6_colons, readPieces_writePieces smallAfter (by simp; omega) (by omega)]
    rfl
  | cons piece others =>
    obtain ⟨first, rest, text, noColon⟩ := exists_writePieces piece others
    rw [← isBefore] at text ⊢
    have notNil : before ≠ [] := by simp [isBefore]
    have enoughBefore := length_le_length_writePieces before
    obtain ⟨fuel, isFuel, enough⟩ : ∃ fuel, (rest ++ ':' :: ':' :: writePieces after).length + 1 =
        fuel + 1 + before.length ∧ after.length ≤ fuel := by
      have length := congrArg List.length text
      rw [List.length_cons] at length
      refine ⟨rest.length + 2 + (writePieces after).length - before.length, ?_, ?_⟩
      · simp only [List.length_append, List.length_cons]
        omega
      · omega
    rw [text, List.cons_append, readIpv6_cons noColon (by simp), isFuel, ← List.cons_append, ← text,
      readPieces_elided smallBefore notNil (by simp; omega),
      readPieces_writePieces smallAfter (by simp; omega) enough]
    simp

/-- An address of eight pieces is read as it is written. -/
theorem readIpv6_writeIpv6 (isPieces : IsPieces pieces) :
    readIpv6 (writeIpv6 pieces) = some pieces := by
  have isRun := isZeroRun_longestZeros pieces
  unfold writeIpv6
  generalize longestZeros pieces = run at isRun ⊢
  obtain ⟨start, length⟩ := run
  have whole := eq_append_of_isZeroRun isRun
  dsimp only
  split
  case isTrue => exact readIpv6_writePieces isPieces
  case isFalse long =>
    have total := congrArg List.length whole
    rw [isPieces.length, List.length_append, List.length_append, List.length_replicate] at total
    have zeros : 8 - (pieces.take start).length - (pieces.drop (start + length)).length =
        length := by omega
    have small (piece) (listed : piece ∈ pieces) := isPieces.small piece listed
    rw [List.append_assoc]
    refine (readIpv6_elided (fun piece inside => small piece (List.mem_of_mem_take inside))
      (fun piece inside => small piece (List.mem_of_mem_drop inside)) (by omega)).trans ?_
    rw [zeros, ← whole]

/-- Digits that are read are no more than may be read. -/
theorem hexDigits_lt (limit value count : Nat) (text : List Char) :
    (hexDigits limit value count text).1 < (value + 1) * 16 ^ limit := by
  induction text generalizing limit value count with
  | nil =>
    rw [hexDigits]
    exact Nat.lt_of_lt_of_le (Nat.lt_succ_self value)
      (Nat.le_mul_of_pos_right _ (Nat.pow_pos (by decide)))
  | cons digit rest inductionHypothesis =>
    unfold hexDigits
    split
    case h_1 limit next found =>
      have small := (hexValue?_cases found).1
      calc (hexDigits limit (value * 16 + next) (count + 1) rest).1
          < (value * 16 + next + 1) * 16 ^ limit := inductionHypothesis limit _ _
        _ ≤ ((value + 1) * 16) * 16 ^ limit := Nat.mul_le_mul_right _ (by omega)
        _ = (value + 1) * 16 ^ (limit + 1) := by
          rw [Nat.pow_succ, Nat.mul_assoc, Nat.mul_comm 16]
    case h_2 =>
      exact Nat.lt_of_lt_of_le (Nat.lt_succ_self value)
        (Nat.le_mul_of_pos_right _ (Nat.pow_pos (by decide)))

/-- A decimal byte is at most 255. -/
theorem decimalByte?_le (found : decimalByte? text = some value) : value ≤ 255 := by
  unfold decimalByte? at found
  dsimp only at found
  split at found
  case isTrue => cases found
  case isFalse fits =>
    cases found
    simp only [not_or] at fits
    exact Nat.le_of_not_lt fits.2.2.2

/-- The digits of a decimal byte are hexadecimal digits, too. -/
theorem isSome_of_decimalByte? {character : Char} (found : decimalByte? text = some value)
    (inside : character ∈ text) : (hexValue? character).isSome := by
  unfold decimalByte? at found
  dsimp only at found
  split at found
  case isTrue => cases found
  case isFalse fits =>
    simp only [not_or, not_not] at fits
    have digit := List.all_eq_true.mp fits.2.1 character inside
    rw [Bool.and_eq_true, decide_eq_true_eq, decide_eq_true_eq] at digit
    simp [hexValue?, digit]

/-- The pieces of an embedded address are small. -/
theorem embeddedIpv4?_lt (found : embeddedIpv4? text = some pieces) :
    ∀ piece ∈ pieces, piece < 16 ^ 4 := by
  unfold embeddedIpv4? at found
  obtain ⟨bytes, areBytes, found⟩ := Option.bind_eq_some_iff.mp found
  have small (byte) (listed : byte ∈ bytes) : byte ≤ 255 := by
    obtain ⟨part, _, isByte⟩ := Domain.exists_of_mapM areBytes listed
    exact decimalByte?_le isByte
  split at found
  case h_1 a b c d =>
    cases found
    have := small a (by simp)
    have := small b (by simp)
    have := small c (by simp)
    have := small d (by simp)
    simp only [List.forall_mem_cons, List.not_mem_nil, false_implies, implies_true, and_true]
    omega
  case h_2 => cases found

/-- The pieces that are read have 16 bits. -/
theorem readPieces_small {read : List Nat × Option Nat} (small : ∀ piece ∈ gathered, piece < 16 ^ 4)
    (isRead : readPieces fuel gathered gap text = some read) :
    ∀ piece ∈ read.1, piece < 16 ^ 4 := by
  have small_of_digits {value count : Nat} {text rest : List Char}
      (digits : hexDigits 4 0 0 text = (value, count, rest)) : value < 16 ^ 4 := by
    simpa [digits] using hexDigits_lt 4 0 0 text
  fun_induction readPieces fuel gathered gap text with
  | case1 =>
    cases isRead
    exact small
  | case2 | case3 | case4 => cases isRead
  | case5 _ _ _ _ _ _ inductionHypothesis =>
    exact inductionHypothesis (List.forall_mem_cons.mpr ⟨by decide, small⟩) isRead
  | case6 _ _ _ _ _ _ _ _ _ digits =>
    rw [digits] at isRead
    cases isRead
    exact List.forall_mem_cons.mpr ⟨small_of_digits digits, small⟩
  | case7 _ _ _ _ _ _ _ _ _ _ tooLate digits =>
    simp [digits, tooLate] at isRead
  | case8 _ _ _ _ _ _ _ _ _ _ inTime digits =>
    simp only [digits, if_pos, if_neg inTime] at isRead
    obtain ⟨pieces, embedded, rfl⟩ := Option.map_eq_some_iff.mp isRead
    intro piece listed
    rcases List.mem_append.mp listed with later | earlier
    · exact embeddedIpv4?_lt embedded piece (List.mem_reverse.mp later)
    · exact small piece earlier
  | case9 _ _ _ _ _ _ _ _ _ _ _ noDot colon digits inductionHypothesis =>
    simp only [digits, if_neg noDot, if_pos colon] at isRead
    exact inductionHypothesis (List.forall_mem_cons.mpr ⟨small_of_digits digits, small⟩) isRead
  | case10 _ _ _ _ _ _ _ _ _ _ _ noDot noColon digits =>
    simp only [digits, if_neg noDot, if_neg noColon] at isRead
    cases isRead

/-- What is completed from small pieces are the pieces of an address. -/
theorem isPieces_of_complete {read : List Nat × Option Nat}
    (small : ∀ piece ∈ read.1, piece < 16 ^ 4) (completed : complete read = some pieces) :
    IsPieces pieces := by
  obtain ⟨gathered, gap | gap⟩ := read
  · simp only [complete] at completed
    split at completed
    case isFalse => cases completed
    case isTrue whole =>
      cases completed
      exact ⟨whole, fun piece listed => small piece (List.mem_reverse.mp listed)⟩
  · simp only [complete] at completed
    split at completed
    case isTrue => cases completed
    case isFalse short =>
      cases completed
      refine ⟨by simp; simp at short; omega, fun piece listed => ?_⟩
      simp only [List.mem_append] at listed
      rcases listed with (earlier | zero) | later
      · exact small piece (List.mem_reverse.mp (List.mem_of_mem_take earlier))
      · rw [List.eq_of_mem_replicate zero]
        decide
      · exact small piece (List.mem_reverse.mp (List.mem_of_mem_drop later))

/-- An address is read by gathering its pieces, behind the colons it may start with. -/
theorem exists_of_readIpv6 (read : readIpv6 text = some pieces) :
    ∃ fuel gathered gap unread result, (∀ piece ∈ gathered, piece < 16 ^ 4) ∧
      readPieces fuel gathered gap unread = some result ∧ complete result = some pieces ∧
      ∀ character ∈ text, character = ':' ∨ character ∈ unread := by
  match text with
  | [] => cases read
  | [_] => cases read
  | first :: second :: rest =>
    by_cases colon : first = ':'
    · subst colon
      by_cases colons : second = ':'
      · subst colons
        rw [readIpv6_colons] at read
        obtain ⟨result, isRead, completed⟩ := Option.bind_eq_some_iff.mp read
        exact ⟨_, _, _, _, result, by decide, isRead, completed, by simp⟩
      · rw [readIpv6, if_neg (by simp)] at read
        dsimp only at read
        split at read
        case h_1 _ _ same => exact absurd (List.cons.inj (List.cons.inj same).2).1 colons
        case h_2 => cases read
        case h_3 _ other => exact absurd rfl (other _)
    · rw [readIpv6_cons colon (by simp)] at read
      obtain ⟨result, isRead, completed⟩ := Option.bind_eq_some_iff.mp read
      exact ⟨_, _, _, _, result, by simp, isRead, completed, fun _ => .inr⟩

/-- An address that is read has eight pieces of 16 bits. -/
theorem isPieces_of_readIpv6 (read : readIpv6 text = some pieces) : IsPieces pieces := by
  obtain ⟨fuel, gathered, gap, unread, result, small, isRead, completed, _⟩ :=
    exists_of_readIpv6 read
  exact isPieces_of_complete (readPieces_small small isRead) completed

/-- Whether a character may stand in an address of eight pieces. -/
def IsAddressCharacter (character : Char) : Prop :=
  character = ':' ∨ character = '.' ∨ (hexValue? character).isSome

/-- The digits of a piece are characters of an address. -/
theorem exists_hexDigits (limit value count : Nat) (text : List Char) :
    ∃ digits, text = digits ++ (hexDigits limit value count text).2.2 ∧
      ∀ digit ∈ digits, IsAddressCharacter digit := by
  induction text generalizing limit value count with
  | nil => exact ⟨[], by simp [hexDigits], by simp⟩
  | cons digit rest inductionHypothesis =>
    unfold hexDigits
    split
    case h_1 limit worth found =>
      obtain ⟨digits, whole, areDigits⟩ :=
        inductionHypothesis limit (value * 16 + worth) (count + 1)
      refine ⟨digit :: digits, congrArg (digit :: ·) whole, ?_⟩
      exact List.forall_mem_cons.mpr ⟨.inr (.inr (by simp [found])), areDigits⟩
    case h_2 => exact ⟨[], rfl, by simp⟩

/-- An embedded address has characters of an address only. -/
theorem isAddressCharacter_of_embeddedIpv4? {character : Char}
    (found : embeddedIpv4? text = some pieces) (inside : character ∈ text) :
    IsAddressCharacter character := by
  unfold embeddedIpv4? at found
  obtain ⟨bytes, areBytes, _⟩ := Option.bind_eq_some_iff.mp found
  rw [← Domain.joinWith_splitAt '.' text] at inside
  rcases Domain.mem_joinWith inside with dot | ⟨part, listed, inPart⟩
  · exact .inr (.inl dot)
  · obtain ⟨byte, isByte⟩ := Domain.exists_of_mem_mapM areBytes listed
    exact .inr (.inr (isSome_of_decimalByte? isByte inPart))

/-- An address that is read has only hexadecimal digits, colons and dots. -/
theorem isAddressCharacter_of_readPieces {read : List Nat × Option Nat} {character : Char}
    (isRead : readPieces fuel gathered gap text = some read) (inside : character ∈ text) :
    IsAddressCharacter character := by
  have digits_or {value count : Nat} {text rest : List Char} {character : Char}
      (digits : hexDigits 4 0 0 text = (value, count, rest)) (inside : character ∈ text) :
      IsAddressCharacter character ∨ character ∈ rest := by
    obtain ⟨front, whole, areDigits⟩ := exists_hexDigits 4 0 0 text
    rw [digits] at whole
    rw [whole] at inside
    exact (List.mem_append.mp inside).imp_left (areDigits character)
  fun_induction readPieces fuel gathered gap text with
  | case1 => cases inside
  | case2 | case3 | case4 => cases isRead
  | case5 _ _ _ _ _ _ inductionHypothesis =>
    rcases List.mem_cons.mp inside with colon | later
    · exact .inl colon
    · exact inductionHypothesis isRead later
  | case6 _ _ _ _ _ _ _ _ _ digits =>
    exact (digits_or digits inside).resolve_right (by simp)
  | case7 _ _ _ _ _ _ _ _ _ _ tooLate digits =>
    simp [digits, tooLate] at isRead
  | case8 _ _ _ _ _ _ _ _ _ _ inTime digits =>
    simp only [digits, if_pos, if_neg inTime] at isRead
    obtain ⟨pieces, embedded, _⟩ := Option.map_eq_some_iff.mp isRead
    exact isAddressCharacter_of_embeddedIpv4? embedded inside
  | case9 _ _ _ _ _ _ _ _ _ _ _ noDot colon digits inductionHypothesis =>
    simp only [digits, if_neg noDot, if_pos colon] at isRead
    rcases digits_or digits inside with isDigit | later
    · exact isDigit
    · rcases List.mem_cons.mp later with rfl | later
      · exact .inl colon.1
      · exact inductionHypothesis isRead later
  | case10 _ _ _ _ _ _ _ _ _ _ _ noDot noColon digits =>
    simp only [digits, if_neg noDot, if_neg noColon] at isRead
    cases isRead

/-- What is read as an address has characters of one only. -/
theorem isAddressCharacter_of_readIpv6 {character : Char} (read : readIpv6 text = some pieces)
    (inside : character ∈ text) : IsAddressCharacter character := by
  obtain ⟨fuel, gathered, gap, unread, result, _, isRead, _, parts⟩ := exists_of_readIpv6 read
  rcases parts character inside with colon | later
  · exact .inl colon
  · exact isAddressCharacter_of_readPieces isRead later

/-- Pieces are written with digits and colons. -/
theorem mem_writePieces {character : Char} (found : character ∈ writePieces pieces) :
    character = ':' ∨ (hexValue? character).isSome := by
  rcases Domain.mem_joinWith found with same | ⟨part, listed, inside⟩
  · exact .inl same
  · obtain ⟨piece, _, rfl⟩ := List.mem_map.mp listed
    exact .inr (isSome_hexValue? inside)

/-- An address of pieces is written with digits and colons. -/
theorem mem_writeIpv6 {character : Char} (found : character ∈ writeIpv6 pieces) :
    character = ':' ∨ (hexValue? character).isSome := by
  unfold writeIpv6 at found
  dsimp only at found
  split at found
  · exact mem_writePieces found
  · simp only [List.mem_append, List.mem_cons, List.not_mem_nil, or_false, or_self] at found
    rcases found with (earlier | colon) | later
    · exact mem_writePieces earlier
    · exact .inl colon
    · exact mem_writePieces later

end EightPieces

end QuizFeed.Url.Address
