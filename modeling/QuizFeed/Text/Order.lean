/-!
# The order of texts

Texts are ordered by the bytes of their UTF-8 form: the first difference decides, and a proper
beginning comes first. The lemmas make `Precedes` a strict total order.
-/

namespace QuizFeed.Text

/-- The UTF-8 form of a text. -/
def bytes (text : String) : List UInt8 :=
  text.toByteArray.data.toList

/-- Different texts have different bytes. -/
theorem bytes_injective {first second : String} (equal : bytes first = bytes second) :
    first = second := by
  apply String.toByteArray_inj.mp
  apply ByteArray.ext
  exact Array.toList_inj.mp equal

/-- Byte strings compare at their first difference; a proper beginning comes first. -/
def bytesPrecede : List UInt8 → List UInt8 → Bool
  | _, [] => false
  | [], _ :: _ => true
  | left :: lefts, right :: rights =>
    if left.toNat < right.toNat then true
    else if right.toNat < left.toNat then false
    else bytesPrecede lefts rights

/-- No bytes precede themselves. -/
theorem bytesPrecede_irrefl (text : List UInt8) : bytesPrecede text text = false := by
  induction text with
  | nil => rfl
  | cons byte rest inductionHypothesis => simp [bytesPrecede, inductionHypothesis]

/-- What precedes bytes precedes all that these precede. -/
theorem bytesPrecede_trans {first second third : List UInt8}
    (left : bytesPrecede first second = true) (right : bytesPrecede second third = true) :
    bytesPrecede first third = true := by
  induction first generalizing second third with
  | nil =>
    cases third with
    | nil => cases second <;> simp [bytesPrecede] at right
    | cons => rfl
  | cons a as inductionHypothesis =>
    cases second with
    | nil => simp [bytesPrecede] at left
    | cons b bs =>
      cases third with
      | nil => simp [bytesPrecede] at right
      | cons c cs =>
        simp only [bytesPrecede] at left right ⊢
        split at left
        · split at right
          · rw [if_pos (by omega)]
          · split at right
            · simp at right
            · rw [if_pos (by omega)]
        · split at left
          · simp at left
          · split at right
            · rw [if_pos (by omega)]
            · split at right
              · simp at right
              · rw [if_neg (by omega), if_neg (by omega)]
                exact inductionHypothesis left right

/-- Of two different lists of bytes one precedes the other. -/
theorem bytesPrecede_total {first second : List UInt8}
    (left : bytesPrecede first second = false) (right : bytesPrecede second first = false) :
    first = second := by
  induction first generalizing second with
  | nil =>
    cases second with
    | nil => rfl
    | cons => simp [bytesPrecede] at left
  | cons a as inductionHypothesis =>
    cases second with
    | nil => simp [bytesPrecede] at right
    | cons b bs =>
      simp only [bytesPrecede] at left right
      split at left
      · simp at left
      · rename_i notLess
        split at left
        · rename_i less
          rw [if_pos less] at right
          simp at right
        · rename_i notGreater
          rw [if_neg notGreater, if_neg notLess] at right
          have heads : a = b := UInt8.toNat_inj.mp (by omega)
          rw [heads, inductionHypothesis left right]

/-- Whether one text comes before another. -/
def precedes (first second : String) : Bool :=
  bytesPrecede (bytes first) (bytes second)

/-- No text precedes itself. -/
theorem precedes_irrefl (text : String) : precedes text text = false :=
  bytesPrecede_irrefl _

/-- What precedes a text precedes all that this precedes. -/
theorem precedes_trans {first second third : String} (left : precedes first second = true)
    (right : precedes second third = true) : precedes first third = true :=
  bytesPrecede_trans left right

/-- Of two different texts one precedes the other. -/
theorem eq_of_not_precedes {first second : String} (left : precedes first second = false)
    (right : precedes second first = false) : first = second :=
  bytes_injective (bytesPrecede_total left right)

end QuizFeed.Text
