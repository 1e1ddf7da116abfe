/-
# What the words of a text say

The words of a text are what stands between its blanks, as far as there is something.  A word has
no blanks in it, so none can be taken away from its ends.

A number is read from one or more digits, with or without a plus sign in front.  The digits that it
is written with are some of those that spell it.
-/
import Lockstep.Text.Decimal
import Lockstep.Text.Words
import Mathlib.Data.List.Basic

namespace Lockstep.Text

/-! ## Words -/

/-- What stands between the blanks of a text, the empty pieces left out. -/
def pieces (text : String) : List String :=
  ((text.toList.splitOnP isBlank).filter (· ≠ [])).map String.ofList

lemma modifyHead_self (pieces : List (List Char)) :
    pieces.modifyHead (fun piece => piece) = pieces := congrFun List.modifyHead_id pieces

/-- The first piece goes on from what has been read of it. -/
lemma wordsFrom_eq (current text : List Char) :
    wordsFrom current text
      = ((text.splitOnP isBlank).modifyHead (current.reverse ++ ·)).filter (· ≠ []) := by
  induction text generalizing current with
  | nil =>
    rw [List.splitOnP_nil]
    rcases current with _ | ⟨c, current⟩ <;> simp [wordsFrom]
  | cons c rest ih =>
    rw [List.splitOnP_cons_eq_if_modifyHead, wordsFrom]
    split_ifs with blank none
    · obtain rfl := List.isEmpty_iff.mp none
      simp [ih, modifyHead_self]
    · have some : current.reverse ≠ [] := by simpa using none
      simp [ih, modifyHead_self, some]
    · rw [ih, List.modifyHead_modifyHead]
      simp [Function.comp_def]

lemma words_eq_pieces (text : String) : words text = pieces text := by
  rw [words, wordsFrom_eq]
  simp [pieces, modifyHead_self]

/-- A space ends a word, whatever stands before and behind it. -/
lemma words_append_space (front back : String) :
    words (front ++ " " ++ back) = words front ++ words back := by
  have chars : (front ++ " " ++ back).toList = front.toList ++ ' ' :: back.toList := by simp
  simp only [words_eq_pieces, pieces, chars,
    List.splitOnP_append_cons _ _ (show isBlank ' ' = true from rfl), List.filter_append,
    List.map_append]

/-- The text has no blanks in it. -/
def Solid (text : String) : Prop := ∀ c ∈ text.toList, isBlank c = false

instance : DecidablePred Solid := fun text => List.decidableBAll _ text.toList

/-- A text without blanks is its own only word. -/
lemma words_of_solid {text : String} (solid : Solid text) (nonempty : text ≠ "") :
    words text = [text] := by
  have chars : text.toList ≠ [] := by simpa using nonempty
  simp [words_eq_pieces, pieces, List.splitOnP_eq_singleton solid, chars]

lemma notBlank_of_mem_splitOnP {text piece : List Char} (mem : piece ∈ text.splitOnP isBlank) :
    ∀ c ∈ piece, isBlank c = false := by
  induction text generalizing piece with
  | nil =>
    obtain rfl : piece = [] := by simpa using mem
    simp
  | cons c rest ih =>
    rw [List.splitOnP_cons_eq_if_modifyHead] at mem
    split_ifs at mem with blank
    · rcases List.mem_cons.mp mem with rfl | mem
      · simp
      · exact ih mem
    · -- the first character belongs to the first piece
      rcases same : rest.splitOnP isBlank with _ | ⟨first, others⟩
      · exact absurd same (List.splitOnP_ne_nil _ _)
      rw [same] at mem
      rcases List.mem_cons.mp mem with rfl | mem
      · intro d inside
        rcases List.mem_cons.mp inside with rfl | inside
        · simpa using blank
        · exact ih (same ▸ List.mem_cons_self) d inside
      · exact ih (same ▸ List.mem_cons_of_mem _ mem)

lemma solid_of_mem_pieces {text word : String} (mem : word ∈ pieces text) : Solid word := by
  obtain ⟨piece, inside, rfl⟩ := List.mem_map.mp mem
  intro c here
  exact notBlank_of_mem_splitOnP (List.mem_of_mem_filter inside) c (by simpa using here)

/-- There is nothing to take away from the ends of a text without blanks. -/
lemma trim_of_solid {text : String} (solid : Solid text) : trim text = text := by
  have kept : ∀ chars : List Char, (∀ c ∈ chars, isBlank c = false) →
      chars.dropWhile isBlank = chars := by
    rintro (_ | ⟨c, rest⟩) solid
    · rfl
    · rw [List.dropWhile_cons, solid c List.mem_cons_self]
      rfl
  have back : ∀ c ∈ text.toList.reverse, isBlank c = false := fun c mem =>
    solid c (List.mem_reverse.mp mem)
  rw [trim, trimChars, kept _ solid, kept _ back, List.reverse_reverse, String.ofList_toList]

/-! ## Letter case -/

lemma lowerChar_eq (c : Char) : lowerChar c = c.toLower := by
  have capital : ('A' ≤ c ∧ c ≤ 'Z') ↔ 65 ≤ c.toNat ∧ c.toNat ≤ 90 := Iff.rfl
  have capital' : (c.val ≥ 'A'.val ∧ c.val ≤ 'Z'.val) ↔ 65 ≤ c.toNat ∧ c.toNat ≤ 90 := Iff.rfl
  simp only [lowerChar, Bool.and_eq_true, decide_eq_true_eq, capital]
  delta Char.toLower
  split_ifs with h h' h'
  · refine Eq.trans (congrArg Char.ofNat ?_) (Char.ofNat_toNat _)
    change c.toNat + 32 = (c.val + 32).toNat
    rw [UInt32.toNat_add]
    change c.toNat + 32 = (c.toNat + 32) % 4294967296
    omega
  · exact absurd (capital'.mpr h) h'
  · exact absurd (capital'.mp h') h
  · rfl

lemma toList_lower (text : String) : (lower text).toList = text.toList.map Char.toLower := by
  rw [lower, String.toList_ofList]
  exact List.map_congr_left fun c _ => lowerChar_eq c

/-! ## Numbers -/

/-- The text spells the number: it consists of a plus sign, or nothing, and decimal digits. -/
def Spells (text : String) (n : Nat) : Prop :=
  ∃ sign digits, text.toList = sign ++ digits ∧ (sign = [] ∨ sign = ['+']) ∧ digits ≠ [] ∧
    (∀ c ∈ digits, c.isDigit) ∧ Nat.ofDigitChars 10 digits 0 = n

lemma digitValue?_eq (c : Char) :
    digitValue? c = if c.isDigit then some (c.toNat - '0'.toNat) else none := by
  have digit : c.isDigit = ('0' ≤ c && c ≤ '9') := rfl
  rw [digitValue?, digit]
  rfl

lemma digitsFrom_eq_some_iff {value n : Nat} {digits : List Char} :
    digitsFrom value digits = some n ↔
      (∀ c ∈ digits, c.isDigit) ∧ Nat.ofDigitChars 10 digits value = n := by
  induction digits generalizing value with
  | nil => simp [digitsFrom, Nat.ofDigitChars]
  | cons c rest ih =>
    rw [digitsFrom, digitValue?_eq]
    by_cases digit : c.isDigit
    · simp [digit, ih, Nat.ofDigitChars_cons, Nat.mul_comm]
    · simp [digit]

lemma readDigits_eq_some_iff {n : Nat} {digits : List Char} :
    readDigits digits = some n ↔
      digits ≠ [] ∧ (∀ c ∈ digits, c.isDigit) ∧ Nat.ofDigitChars 10 digits 0 = n := by
  rcases digits with _ | ⟨c, rest⟩
  · simp [readDigits]
  · rw [readDigits, digitsFrom_eq_some_iff]
    · simp
    · simp

/-- What stands behind a plus sign, or all if there is none. -/
def unsigned : List Char → List Char
  | '+' :: rest => rest
  | rest => rest

lemma readDigits_unsigned_iff {n : Nat} {text : String} :
    readDigits (unsigned text.toList) = some n ↔ Spells text n := by
  rw [readDigits_eq_some_iff, Spells]
  generalize text.toList = chars
  fun_cases unsigned chars with
  | case1 rest =>
    constructor
    · intro digits
      exact ⟨['+'], rest, rfl, .inr rfl, digits⟩
    · rintro ⟨sign, digits, same, rfl | rfl, spelled⟩
      · -- a plus sign is no digit
        obtain rfl : '+' :: rest = digits := same
        exact absurd (spelled.2.1 '+' List.mem_cons_self) (by decide)
      · obtain rfl : rest = digits := (List.cons.inj same).2
        exact spelled
  | case2 _ without =>
    constructor
    · intro digits
      exact ⟨[], chars, rfl, .inl rfl, digits⟩
    · rintro ⟨sign, digits, same, rfl | rfl, spelled⟩
      · obtain rfl : chars = digits := same
        exact spelled
      · exact absurd same (without digits)

lemma readNat_eq_some_iff {limit n : Nat} {text : String} :
    readNat limit text = some n ↔ Spells text n ∧ n ≤ limit := by
  rw [← readDigits_unsigned_iff]
  unfold readNat
  dsimp only
  split
  next m read =>
    change readDigits (unsigned text.toList) = some m at read
    rw [read, Option.ite_none_right_eq_some, Option.some.injEq, and_comm]
    exact and_congr_right fun same => by rw [same]
  next none =>
    change readDigits (unsigned text.toList) = Option.none at none
    simp [none]

/-- A block number is read from what spells it. -/
lemma readWord_eq_some_iff {text : String} {word : UInt16} :
    readWord text = some word ↔ Spells text word.toNat := by
  have limit : word.toNat ≤ 65535 := Nat.le_of_lt_succ word.toNat_lt
  rw [readWord, Option.map_eq_some_iff]
  constructor
  · rintro ⟨n, read, rfl⟩
    obtain ⟨spells, le⟩ := readNat_eq_some_iff.mp read
    rwa [UInt16.toNat_ofNat', Nat.mod_eq_of_lt (Nat.lt_succ_of_le le)]
  · intro spells
    exact ⟨word.toNat, readNat_eq_some_iff.mpr ⟨spells, limit⟩, UInt16.ofNat_toNat⟩

/-- A number is written as something that spells it. -/
lemma spells_toString (n : Nat) : Spells (toString n) n := by
  refine ⟨[], Nat.toDigits 10 n, ?_, .inl rfl, Nat.toDigits_ne_nil, fun c mem => ?_, ?_⟩
  · rw [Nat.toString_eq_ofList_toDigits, String.toList_ofList, List.nil_append]
  · exact Nat.isDigit_of_mem_toDigits (by decide) (by decide) mem
  · exact Nat.ofDigitChars_toDigits (by decide) (by decide)

lemma isBlank_of_isDigit {c : Char} (digit : c.isDigit) : isBlank c = false := by
  have range : 48 ≤ c.toNat ∧ c.toNat ≤ 57 := by simpa [Char.isDigit_iff_toNat] using digit
  simp [isBlank, wideBlanks]
  omega

lemma solid_toString (n : Nat) : Solid (toString n) ∧ toString n ≠ "" := by
  have chars : (toString n).toList = Nat.toDigits 10 n := by
    rw [Nat.toString_eq_ofList_toDigits, String.toList_ofList]
  constructor
  · intro c mem
    rw [chars] at mem
    exact isBlank_of_isDigit (Nat.isDigit_of_mem_toDigits (by decide) (by decide) mem)
  · rintro none
    rw [none] at chars
    exact Nat.toDigits_ne_nil chars.symm

end Lockstep.Text
