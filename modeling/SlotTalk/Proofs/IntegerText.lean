import Mathlib.Data.List.TakeWhile
import SlotTalk.Primitive.Objects
import SlotTalk.Primitive.Scalars
import SlotTalk.Proofs.ExactIntegers

namespace SlotTalk

/-!
# Integers as text

An integer is written as decimal digits with a minus sign where it is negative, in both number
formats.  Whoever reads the text gets the integer back if it fits in a word; the text of a wider one
is read as a float.

* `Numeral.written`, `Numeral.toList_toString` — the characters of an integer.
* `Numeral.readInt?_written`, `Numeral.readFloat?_written` — what the two readers make of them.
* `Text.strip_padded` — blanks around a text without blanks do not matter.
* `integers_are_read_back` — the way through text and back, as programs go it.
-/

namespace Numeral

/-! ### Writing -/

/-- Digits with a minus sign where it is wanted. -/
def written (negative : Bool) (digits : List Char) : List Char :=
  if negative then '-' :: digits else digits

/-- The characters of an integer: the digits of its size, and its sign. -/
theorem toList_toString (n : Int) :
    (toString n).toList = written (decide (n < 0)) (Nat.toDigits 10 n.natAbs) := by
  cases n with
  | ofNat size =>
    have positive : ¬ Int.ofNat size < 0 := by simp
    simp only [written, positive, decide_false, Bool.false_eq_true, ↓reduceIte]
    exact Nat.toList_repr
  | negSucc size =>
    have negative : Int.negSucc size < 0 := Int.negSucc_lt_zero size
    simp only [written, negative, decide_true, ↓reduceIte]
    show ("-" ++ (size + 1).repr).toList = _
    rw [String.toList_append, Nat.toList_repr]
    rfl

/-! ### Reading -/

/-- Digits denote the number that they were made of. -/
theorem digitsValue_toDigits (n : Nat) : digitsValue 0 (Nat.toDigits 10 n) = n := by
  show Nat.ofDigitChars 10 (Nat.toDigits 10 n) 0 = n
  exact Nat.ofDigitChars_ten_toDigits

/-- A digit is no sign. -/
theorem ne_sign_of_isDigit {c : Char} (digit : c.isDigit = true) : c ≠ '-' ∧ c ≠ '+' := by
  constructor
  · rintro rfl
    exact absurd digit (by decide)
  · rintro rfl
    exact absurd digit (by decide)

section Written

variable {digits : List Char} (nonempty : digits ≠ []) (all : ∀ c ∈ digits, c.isDigit = true)
include nonempty all

/-- Of what was written the sign is taken off, and the digits are left. -/
theorem takeSign_written (negative : Bool) :
    takeSign (written negative digits) = (negative, digits) := by
  cases negative with
  | true => rfl
  | false =>
    cases digits with
    | nil => exact absurd rfl nonempty
    | cons first rest =>
      -- Without a sign, the first digit must not be taken for one.
      obtain ⟨minus, plus⟩ := ne_sign_of_isDigit (all first List.mem_cons_self)
      simp only [written, Bool.false_eq_true, ↓reduceIte]
      unfold takeSign
      split
      · exact absurd (List.cons.inj ‹_›).1 minus
      · exact absurd (List.cons.inj ‹_›).1 plus
      · rfl

/-- Digits that were written with a sign are read as a signed integer. -/
theorem readInt?_written (negative : Bool) :
    readInt? (written negative digits)
      = some (Binary64.signed negative (digitsValue 0 digits)) := by
  have isEmpty : digits.isEmpty = false := by
    rw [List.isEmpty_eq_false_iff]
    exact nonempty
  have digitsOnly : digits.all Char.isDigit = true := List.all_eq_true.mpr all
  simp only [readInt?, takeSign_written nonempty all, isEmpty, digitsOnly, Bool.not_true,
    Bool.or_self, Bool.false_eq_true, ↓reduceIte]

/-- Digits alone are a number without a fraction and without a power of ten. -/
theorem readSize?_digits :
    readSize? digits = some (nearestFloat (digitsValue 0 digits) 0) := by
  have isEmpty : digits.isEmpty = false := by
    rw [List.isEmpty_eq_false_iff]
    exact nonempty
  have whole : digits.takeWhile Char.isDigit = digits := List.takeWhile_eq_self_iff.mpr all
  have rest : digits.dropWhile Char.isDigit = [] := List.dropWhile_eq_nil_iff.mpr all
  simp only [readSize?, whole, rest, isEmpty, Bool.false_and, Bool.false_eq_true, ↓reduceIte]
  rfl

/-- Digits that were written with a sign are read as the nearest float, with that sign. -/
theorem readFloat?_written (negative : Bool) :
    readFloat? (written negative digits)
      = some (if negative then -nearestFloat (digitsValue 0 digits) 0
          else nearestFloat (digitsValue 0 digits) 0) := by
  simp only [readFloat?, takeSign_written nonempty all, readSize?_digits nonempty all,
    Option.orElse_some, Option.map_some]

end Written

/-- The float that is read where an integer does not fit in a word: the one nearest to its size,
    with its sign. -/
def nearestTo (n : Int) : Float :=
  if n < 0 then -nearestFloat n.natAbs 0 else nearestFloat n.natAbs 0

section Integer

variable (n : Int)

theorem digits_ne_nil : Nat.toDigits 10 n.natAbs ≠ [] := Nat.toDigits_ne_nil

theorem digits_isDigit : ∀ c ∈ Nat.toDigits 10 n.natAbs, c.isDigit = true :=
  fun _ mem => Nat.isDigit_of_mem_toDigits (by decide) (by decide) mem

/-- An integer is read back from its text. -/
theorem readInt?_toString : readInt? (toString n).toList = some n := by
  rw [toList_toString, readInt?_written (digits_ne_nil n) (digits_isDigit n),
    digitsValue_toDigits, Binary64.signed_natAbs]

/-- From the text of an integer the float nearest to it is read. -/
theorem readFloat?_toString : readFloat? (toString n).toList = some (nearestTo n) := by
  rw [toList_toString, readFloat?_written (digits_ne_nil n) (digits_isDigit n),
    digitsValue_toDigits]
  simp only [nearestTo, decide_eq_true_eq]

end Integer

end Numeral

/-! ### Blanks -/

namespace Text

/-- No blank is dropped in front of a text that has none. -/
theorem dropWhile_bare {text : List Char} (nonempty : text ≠ [])
    (bare : ∀ c ∈ text, isBlank c = false) (more : List Char) :
    (text ++ more).dropWhile isBlank = text ++ more := by
  cases text with
  | nil => exact absurd rfl nonempty
  | cons first others =>
    have first_bare : ¬ isBlank first = true := by simp [bare first List.mem_cons_self]
    exact List.dropWhile_cons_of_neg first_bare

/-- Blanks around a text that has none are stripped, and no more. -/
theorem strip_padded {left text right : List Char} (before : ∀ c ∈ left, isBlank c = true)
    (after : ∀ c ∈ right, isBlank c = true) (nonempty : text ≠ [])
    (bare : ∀ c ∈ text, isBlank c = false) : strip (left ++ text ++ right) = text := by
  -- the right side is stripped from the reversed text, in which it comes first
  have reversed : ∀ c ∈ right.reverse, isBlank c = true := by
    intro c mem
    exact after c (List.mem_reverse.mp mem)
  have reversed_bare : ∀ c ∈ text.reverse, isBlank c = false := by
    intro c mem
    exact bare c (List.mem_reverse.mp mem)
  have reversed_ne : text.reverse ≠ [] := by simpa using nonempty
  have last : text.reverse.dropWhile isBlank = text.reverse := by
    simpa using dropWhile_bare reversed_ne reversed_bare []
  rw [strip, List.append_assoc, List.dropWhile_append_of_pos before, dropWhile_bare nonempty bare,
    List.reverse_append, List.dropWhile_append_of_pos reversed, last, List.reverse_reverse]

/-- A digit is no blank. -/
theorem isBlank_of_isDigit {c : Char} (digit : c.isDigit = true) : isBlank c = false := by
  have range : 48 ≤ c.toNat ∧ c.toNat ≤ 57 := by
    simp only [Char.isDigit, Bool.and_eq_true, decide_eq_true_eq] at digit
    exact digit
  simp only [isBlank, blankRanges, List.any_cons, List.any_nil, Bool.or_false,
    Bool.or_eq_false_iff, Bool.and_eq_false_iff, decide_eq_false_iff_not]
  omega

end Text

/-- Neither the sign nor a digit of an integer is blank. -/
theorem Numeral.bare_toString (n : Int) : ∀ c ∈ (toString n).toList, Text.isBlank c = false := by
  intro c mem
  rw [toList_toString, written] at mem
  split at mem
  · rcases List.mem_cons.mp mem with rfl | digit
    · decide
    · exact Text.isBlank_of_isDigit (digits_isDigit n c digit)
  · exact Text.isBlank_of_isDigit (digits_isDigit n c mem)

theorem Numeral.toString_ne_nil (n : Int) : (toString n).toList ≠ [] := by
  rw [toList_toString, written]
  split
  · exact List.cons_ne_nil _ _
  · exact digits_ne_nil n

/-! ### There and back -/

/-- An integer is written in the same way in both formats. -/
theorem Store.display_of_int {value : Value} {n : Int} (denotes : value.int? = some n)
    (store : Store) (format : NumberFormat) :
    store.display format value = toString n := by
  cases value with
  | int word =>
    obtain rfl := Option.some.inj denotes
    rfl
  | big wide =>
    obtain rfl := Option.some.inj denotes
    rfl
  | _ => exact nomatch denotes

/-- What is read from the text of an integer with blanks around it. -/
theorem SequencePrimitive.numberIn_padded (n : Int) {left right : List Char}
    (before : ∀ c ∈ left, Text.isBlank c = true) (after : ∀ c ∈ right, Text.isBlank c = true) :
    numberIn (String.ofList left ++ toString n ++ String.ofList right)
      = if fitsWord n then .ofInt n else .float (Numeral.nearestTo n) := by
  have characters : (String.ofList left ++ toString n ++ String.ofList right).toList
      = left ++ (toString n).toList ++ right := by
    simp only [String.toList_append, String.toList_ofList]
  have stripped := Text.strip_padded before after (Numeral.toString_ne_nil n)
    (Numeral.bare_toString n)
  rw [numberIn, characters, stripped, Numeral.readInt?_toString, Numeral.readFloat?_toString]
  cases fits : fitsWord n with
  | true =>
    rw [Option.filter_some_pos fits]
    rfl
  | false =>
    rw [Option.filter_some_neg fits]
    rfl

theorem ObjectPrimitive.asString_on (use : Invocation) (engine : Engine) :
    ∃ identity, (ObjectPrimitive.asString.run use).on engine
      = (.ok (.string ⟨engine.display use.receiver, identity⟩),
        { engine with nextIdentity := engine.nextIdentity + 1 }) := ⟨_, rfl⟩

theorem SequencePrimitive.asNumber_on {use : Invocation} {text : Text}
    (receiver : use.receiver = .string text) (engine : Engine) :
    (SequencePrimitive.asNumber.run use).on engine = (.ok (numberIn text.content), engine) := by
  show (do return numberIn (← use.receiver.expectString) : Action Value).on engine = _
  rw [receiver]
  rfl

/-- **Integers as text.**  In every state, and so in both number formats, the text of an integer in
    its one form, with any blanks added before and after it, is read as a number.  If the integer
    fits in a word, what is read is the very value that was written, and denotes the integer; if it
    does not, what is read is a float. -/
theorem integers_are_read_back {value : Value} {n : Int} (represents : value.Represents n)
    (writer : Engine) (written : Invocation) (receiver : written.receiver = value) :
    ∃ text after, (ObjectPrimitive.asString.run written).on writer = (.ok (.string text), after)
      ∧ ∀ (left right : List Char), (∀ c ∈ left, Text.isBlank c = true) →
        (∀ c ∈ right, Text.isBlank c = true) →
        ∀ (reader : Engine) (read : Invocation) (padded : Text), read.receiver = .string padded →
          padded.content = String.ofList left ++ text.content ++ String.ofList right →
          ∃ answer, (SequencePrimitive.asNumber.run read).on reader = (.ok answer, reader)
            ∧ (fitsWord n = true → answer = value ∧ answer.int? = some n)
            ∧ (fitsWord n = false → answer = .float (Numeral.nearestTo n)) := by
  have denotes : value.int? = some n := represents.int?
  obtain ⟨identity, wrote⟩ := ObjectPrimitive.asString_on written writer
  refine ⟨_, _, wrote, fun left right before after reader read padded given content => ?_⟩
  have shown : writer.display written.receiver = toString n := by
    rw [receiver]
    exact Store.display_of_int denotes _ _
  rw [shown] at content
  refine ⟨_, SequencePrimitive.asNumber_on given reader, fun fits => ?_, fun wide => ?_⟩
  · rw [Value.Represents, if_pos fits] at represents
    have same : SequencePrimitive.numberIn padded.content = value := by
      rw [content, SequencePrimitive.numberIn_padded n before after, if_pos fits, Value.ofInt,
        if_pos fits, represents]
    exact ⟨same, same ▸ denotes⟩
  · rw [content, SequencePrimitive.numberIn_padded n before after, wide]
    rfl

/-- The lowest word comes back from its text with a blank on either side.  The first integer above
    all words does not: what comes back is a float. -/
theorem lowest_word_is_read_back :
    (∃ text after, (ObjectPrimitive.asString.run
            ⟨.int Int64.minValue, [], ⟨"asString", 0, none⟩⟩).on
          (Engine.new {}) = (.ok (.string text), after)
        ∧ (SequencePrimitive.asNumber.run
            ⟨.string (" " ++ text.content ++ "\n" : String), [], ⟨"asNumber", 0, none⟩⟩).on after
          = (.ok (.int Int64.minValue), after))
      ∧ ∃ text after, (ObjectPrimitive.asString.run
            ⟨.big wordLimit .unassigned, [], ⟨"asString", 0, none⟩⟩).on
          (Engine.new { numberFormat := .legacy }) = (.ok (.string text), after)
        ∧ (SequencePrimitive.asNumber.run
            ⟨.string (" " ++ text.content ++ "\n" : String), [], ⟨"asNumber", 0, none⟩⟩).on after
          = (.ok (.float (Numeral.nearestTo wordLimit)), after) := by
  have blank : ∀ c ∈ [' '], Text.isBlank c = true := List.forall_mem_singleton.mpr rfl
  have newline : ∀ c ∈ ['\n'], Text.isBlank c = true := List.forall_mem_singleton.mpr rfl
  constructor
  · have represents : (Value.int Int64.minValue).Represents (-wordLimit) := rfl
    obtain ⟨text, after, wrote, reads⟩ := integers_are_read_back represents (Engine.new {})
      ⟨_, [], ⟨"asString", 0, none⟩⟩ rfl
    obtain ⟨answer, read, fits, -⟩ := reads [' '] ['\n'] blank newline after
      ⟨_, [], ⟨"asNumber", 0, none⟩⟩ (" " ++ text.content ++ "\n" : String) rfl rfl
    obtain ⟨rfl, -⟩ := fits rfl
    exact ⟨text, after, wrote, read⟩
  · have represents : (Value.big wordLimit .unassigned).Represents wordLimit :=
      ⟨.unassigned, rfl⟩
    obtain ⟨text, after, wrote, reads⟩ := integers_are_read_back represents
      (Engine.new { numberFormat := .legacy }) ⟨_, [], ⟨"asString", 0, none⟩⟩ rfl
    obtain ⟨answer, read, -, wide⟩ := reads [' '] ['\n'] blank newline after
      ⟨_, [], ⟨"asNumber", 0, none⟩⟩ (" " ++ text.content ++ "\n" : String) rfl rfl
    obtain rfl := wide rfl
    exact ⟨text, after, wrote, read⟩

end SlotTalk
