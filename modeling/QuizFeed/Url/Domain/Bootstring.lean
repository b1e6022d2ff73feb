/-!
# Writing any characters with letters and digits

A label of a domain name that is not ASCII is written as its ASCII characters, a hyphen, and the
other characters in ascending order as distances, each a number of base 36 whose digits end by
thresholds that adapt to the distances seen so far. `encode` and `decode` are the two directions.
-/

namespace QuizFeed.Url.Domain.Bootstring

/-- The digit with a value below 36. -/
def digit (value : Nat) : Char :=
  if value < 26 then Char.ofNat (value + 97) else Char.ofNat (value - 26 + 48)

/-- The value of a digit. -/
def value? (digit : Char) : Option Nat :=
  let code := digit.toNat
  if 97 ≤ code ∧ code ≤ 122 then some (code - 97)
  else if 65 ≤ code ∧ code ≤ 90 then some (code - 65)
  else if 48 ≤ code ∧ code ≤ 57 then some (code - 48 + 26)
  else none

/-- The threshold of the digit at a place: between one and twenty-six. -/
def threshold (place bias : Nat) : Nat :=
  if place ≤ bias then 1 else if bias + 26 ≤ place then 26 else place - bias

/-- A threshold is never zero. -/
theorem threshold_pos (place bias : Nat) : 1 ≤ threshold place bias := by
  unfold threshold
  split
  · omega
  · split <;> omega

/-- A threshold is never beyond the letters. -/
theorem threshold_le (place bias : Nat) : threshold place bias ≤ 26 := by
  unfold threshold
  split
  · omega
  · split <;> omega

/-- Divides by 35 until the distance is at most 455, counting 36 places each time. -/
def settle (distance places : Nat) : Nat × Nat :=
  if distance > 455 then settle (distance / 35) (places + 36) else (distance, places)
termination_by distance
decreasing_by omega

/-- The bias after a distance, where `written` characters are written so far. -/
def adapt (distance written : Nat) (first : Bool) : Nat :=
  let damped := if first then distance / 700 else distance / 2
  let (rest, places) := settle (damped + damped / written) 0
  places + 36 * rest / (rest + 38)

/-- The digits of a distance from a place on. -/
def distanceDigits (bias place distance : Nat) : List Char :=
  let limit := threshold place bias
  if distance < limit then [digit distance]
  else
    digit (limit + (distance - limit) % (36 - limit)) ::
      distanceDigits bias (place + 36) ((distance - limit) / (36 - limit))
termination_by distance
decreasing_by
  have positive := threshold_pos place bias
  calc (distance - threshold place bias) / (36 - threshold place bias)
      ≤ distance - threshold place bias := Nat.div_le_self ..
    _ < distance := by omega

/-- What is written so far, and the distance that is not yet written. -/
structure Progress where
  digits : List Char
  distance : Nat
  bias : Nat
  written : Nat

/-- Passes one character of the label while the characters of one code are written. -/
def Progress.pass (basic code : Nat) (progress : Progress) (character : Char) : Progress :=
  if character.toNat < code then { progress with distance := progress.distance + 1 }
  else if character.toNat = code then
    { digits := progress.digits ++ distanceDigits progress.bias 36 progress.distance
      distance := 0
      bias := adapt progress.distance (progress.written + 1) (progress.written == basic)
      written := progress.written + 1 }
  else progress

/-- Puts a number into an ascending list without repetitions. -/
def insertCode (code : Nat) : List Nat → List Nat
  | [] => [code]
  | other :: rest =>
    if code < other then code :: other :: rest
    else if other < code then other :: insertCode code rest
    else other :: rest

/-- Writes the characters of the given ascending codes, from the code `next` on. -/
def encodeCodes (label : List Char) (basic next : Nat) (progress : Progress) :
    List Nat → Progress
  | [] => progress
  | code :: rest =>
    let start := { progress with
      distance := progress.distance + (code - next) * (progress.written + 1) }
    let passed := label.foldl (Progress.pass basic code) start
    encodeCodes label basic (code + 1) { passed with distance := passed.distance + 1 } rest

/-- The written form of a label. -/
def encode (label : List Char) : List Char :=
  let basic := label.filter (·.toNat < 128)
  let others := (label.filter (128 ≤ ·.toNat)).foldr (fun c codes => insertCode c.toNat codes) []
  let start := ⟨[], 0, 72, basic.length⟩
  let separator := if basic.isEmpty then [] else ['-']
  basic ++ separator ++ (encodeCodes label basic.length 128 start others).digits

/-- Reads one distance: its value and the digits that follow. -/
def readDistance (bias place weight total : Nat) : List Char → Option (Nat × List Char)
  | [] => none
  | character :: rest =>
    match value? character with
    | none => none
    | some value =>
      let total := total + value * weight
      let limit := threshold place bias
      if value < limit then some (total, rest)
      else readDistance bias (place + 36) (weight * (36 - limit)) total rest

/-- Reading a distance takes at least one digit. -/
theorem readDistance_shorter {bias place weight total : Nat} {digits rest : List Char}
    {distance : Nat} (read : readDistance bias place weight total digits = some (distance, rest)) :
    rest.length < digits.length := by
  induction digits generalizing place weight total with
  | nil => simp [readDistance] at read
  | cons character digits inductionHypothesis =>
    simp only [readDistance] at read
    split at read
    · simp at read
    · split at read
      · simp only [Option.some.injEq, Prod.mk.injEq] at read
        simp [read.2]
      · have := inductionHypothesis read
        simp only [List.length_cons]
        omega

/-- Puts the characters that the digits describe into a label. -/
def decodeDigits (position code bias : Nat) (label digits : List Char) : Option (List Char) :=
  match digits with
  | [] => some label
  | character :: digits =>
    match _read : readDistance bias 36 1 0 (character :: digits) with
    | none => none
    | some (distance, rest) =>
      let size := label.length + 1
      let advance := position + distance
      let code := code + advance / size
      let place := advance % size
      if code > 0x10FFFF ∨ (0xD800 ≤ code ∧ code ≤ 0xDFFF) then none
      else
        decodeDigits (place + 1) code (adapt distance size (position == 0))
          (label.take place ++ Char.ofNat code :: label.drop place) rest
termination_by digits.length
decreasing_by simpa using readDistance_shorter _read

/-- The label that a written form stands for. -/
def decode (written : List Char) : Option (List Char) :=
  let tail := written.reverse.takeWhile (· != '-')
  let basic := (written.reverse.drop (tail.length + 1)).reverse
  if written.all (·.toNat < 128) then decodeDigits 0 128 72 basic tail.reverse else none

end QuizFeed.Url.Domain.Bootstring
