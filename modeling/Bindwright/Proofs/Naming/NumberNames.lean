import Bindwright.Proofs.Naming.Cardinals
import Bindwright.Proofs.Naming.Casing
import Bindwright.Proofs.Text.Pieces

namespace Bindwright.Naming

open Text

namespace Cardinals

/-- The words of a number by its greatest scale, if each table has the word that is looked up and
there is a scale for every number from a thousand on. -/
def byGreatestScale? (n : Nat) : Option (List String) :=
  if n < 20 then do return [← smallNumbers[n]?]
  else if n < 100 then do
    let ten ← tens[n / 10 - 2]?
    if n % 10 = 0 then return [ten] else return [ten ++ "-" ++ (← smallNumbers[n % 10]?)]
  else if n < 1000 then do
    let digit ← smallNumbers[n / 100]?
    if n % 100 = 0 then return [digit, "hundred"]
    else return digit :: "hundred" :: (← byGreatestScale? (n % 100))
  else
    match _found : scales.find? (·.1 ≤ n) with
    | none => none
    | some (scale, word) => do
      let front ← byGreatestScale? (n / scale)
      if n % scale = 0 then return front ++ [word]
      else return front ++ word :: (← byGreatestScale? (n % scale))
termination_by n
decreasing_by
  · omega
  all_goals
    have listed := List.mem_of_find?_eq_some _found
    have least : ∀ s ∈ scales, 1000 ≤ s.1 := by decide
    have := least _ listed
  · exact Nat.div_lt_self (by omega) (by omega)
  · have reached : scale ≤ n := by simpa using List.find?_some _found
    have := Nat.mod_lt n (y := scale) (by omega)
    omega

theorem getElem?_eq_getD (words : List String) {n : Nat} (inside : n < words.length) :
    words[n]? = some (words.getD n "") := by
  rw [List.getD_eq_getElem?_getD, List.getElem?_eq_getElem inside, Option.getD_some]

theorem byGreatestScale?_belowHundred {n : Nat} (fits : n < 100) :
    byGreatestScale? n = some [wordBelowHundred n] := by
  have small {m : Nat} (few : m < 20) := getElem?_eq_getD smallNumbers few
  rw [byGreatestScale?, wordBelowHundred]
  split
  · rename_i few
    rw [small few]
    rfl
  · have ten := getElem?_eq_getD tens (n := n / 10 - 2)
      (by change n / 10 - 2 < 8; omega)
    rw [ten]
    by_cases round : n % 10 = 0
    · simp [round]
    · have one := small (m := n % 10) (by omega)
      simp only [Option.bind_eq_bind, Option.bind_some, Option.pure_def, if_neg round, one]

theorem byGreatestScale?_belowThousand {n : Nat} (fits : n < 1000) :
    byGreatestScale? n = some (wordsBelowThousand n) := by
  rw [wordsBelowThousand]
  split
  · rename_i low
    exact byGreatestScale?_belowHundred low
  · have digit := getElem?_eq_getD smallNumbers (n := n / 100)
      (by change n / 100 < 20; omega)
    have rest := byGreatestScale?_belowHundred (Nat.mod_lt n (by decide : 0 < 100))
    rw [byGreatestScale?, if_neg (by omega), if_neg (by omega), if_pos fits, digit]
    by_cases round : n % 100 = 0
    · simp [round]
    · simp [round, rest]

theorem byGreatestScale?_wordsByScale {before rest : List (Nat × String)}
    (listed : scales = before ++ rest) (graded : Graded rest) {n : Nat} (positive : 0 < n)
    (fits : n < ceiling rest) (greater : ∀ s ∈ before, n < s.1) :
    byGreatestScale? n = some (wordsByScale rest n) := by
  induction graded generalizing n before with
  | nil => rw [wordsByScale, if_neg (by omega), byGreatestScale?_belowThousand fits]
  | @cons rest scale word graded step plain fresh ih =>
    have listed' : scales = (before ++ [(scale, word)]) ++ rest := by simpa using listed
    have least : ∀ s ∈ scales, 1000 ≤ s.1 := by decide
    have thousand : 1000 ≤ scale := least (scale, word) (by simp [listed])
    rw [wordsByScale]
    split
    · rename_i small
      refine ih listed' positive (step ▸ small) fun s member => ?_
      rcases List.mem_append.1 member with earlier | own
      · exact greater s earlier
      · rw [List.mem_singleton.1 own]
        exact small
    · rename_i large
      have count : n / scale < 1000 := by
        subst step
        exact div_lt_of_lt_ceiling fits
      -- Greater scales come first, and `n` is below all that were passed.
      have found : scales.find? (·.1 ≤ n) = some (scale, word) := by
        have passed : before.find? (·.1 ≤ n) = none :=
          List.find?_eq_none.2 fun s member => by simpa using greater s member
        rw [listed, List.find?_append, passed, Option.none_or,
          List.find?_cons_of_pos (by simpa using large)]
      rw [byGreatestScale?, if_neg (by omega), if_neg (by omega), if_neg (by omega)]
      split
      · rename_i absent
        cases absent.symm.trans found
      · rename_i scale' word' found'
        cases found'.symm.trans found
        rw [byGreatestScale?_belowThousand count]
        by_cases multiple : n % scale = 0
        · simp [multiple, (wordsByScale_eq_nil_iff graded).2]
        · have low : n % scale < scale := Nat.mod_lt n (by omega)
          have rest := ih listed' (Nat.pos_of_ne_zero multiple) (step ▸ low) fun s member => by
            rcases List.mem_append.1 member with earlier | own
            · have := greater s earlier
              omega
            · rw [List.mem_singleton.1 own]
              exact low
          simp [multiple, rest]

def inCapitals (text : String) : List Char :=
  uppercase (text.toList.map fun c => if c = ' ' ∨ c = '-' then '_' else c)

theorem inCapitals_append (text more : String) :
    inCapitals (text ++ more) = inCapitals text ++ inCapitals more := by
  rw [inCapitals, String.toList_append, List.map_append, uppercase, List.flatMap_append]
  rfl

theorem partsOfConstant_append (name more : List Char) :
    partsOfConstant (name ++ '_' :: more) = partsOfConstant name ++ partsOfConstant more := by
  rw [partsOfConstant, splitAll_append, List.map_append]
  rfl

/-- A word that stands in the spelling of numbers and is told from its neighbours there. -/
structure NumberWord (word : String) : Prop where
  inhabited : word.toList ≠ []
  letters : ∀ c ∈ word.toList, c ∈ smallLetters ∨ c = '-'
  parts : partsOfWord? word = some (pieces '-' word)
  capitals : partsOfConstant (inCapitals word) = pieces '-' word

instance : DecidablePred NumberWord := fun word =>
  decidable_of_iff (word.toList ≠ [] ∧
      (word.toList.all fun c => decide (c ∈ smallLetters ∨ c = '-')) = true ∧
      partsOfWord? word = some (pieces '-' word) ∧
      partsOfConstant (inCapitals word) = pieces '-' word)
    ⟨fun h => ⟨h.1, by simpa using h.2.1, h.2.2.1, h.2.2.2⟩,
      fun h => ⟨h.1, by simpa using h.2, h.3, h.4⟩⟩

theorem numberWord_single : ∀ word ∈ lowParts, NumberWord word := by decide

theorem numberWord_hyphenated {ten digit : String} (listed : ten ∈ tens)
    (listed' : digit ∈ digits) : NumberWord (ten ++ "-" ++ digit) := by
  have single := numberWord_single ten (tens_subset listed)
  have single' := numberWord_single digit (digits_subset listed')
  have cut := pieces_hyphenated listed listed'
  have values : ∀ ten ∈ tens, (ten? ten).isSome = true := by decide
  have values' : ∀ digit ∈ digits, (digit? digit).isSome = true := by decide
  have row : (ten ++ "-" ++ digit).toList = ten.toList ++ '-' :: digit.toList := by simp
  constructor
  · rw [row]
    simp
  · rw [row]
    exact List.forall_mem_append.2
      ⟨single.letters, List.forall_mem_cons.2 ⟨.inr rfl, single'.letters⟩⟩
  · rw [partsOfWord?, cut]
    exact if_pos ⟨values ten listed, values' digit listed'⟩
  · have mark : inCapitals "-" = ['_'] := by decide
    rw [inCapitals_append, inCapitals_append, mark, List.append_assoc, List.singleton_append,
      partsOfConstant_append, single.capitals, single'.capitals, cut,
      pieces_single _ (tens_subset listed), pieces_single _ (digits_subset listed')]
    rfl

theorem LowWord.numberWord {word : String} (low : LowWord word) : NumberWord word := by
  cases low with
  | single listed => exact numberWord_single word listed
  | hyphenated listed listed' => exact numberWord_hyphenated listed listed'

theorem numberWord_of_mem {n : Nat} (fits : n < ceiling scales) :
    ∀ word ∈ numberWords n, NumberWord word := by
  have named : ∀ s ∈ scales, NumberWord s.2 := by decide
  unfold numberWords
  split
  · decide
  · exact forall_mem_wordsByScale graded_scales (fun _ low => low.numberWord) named fits

theorem numberWords_ne_nil (n : Nat) : numberWords n ≠ [] := by
  unfold numberWords
  split
  · exact List.cons_ne_nil _ _
  · rename_i positive
    exact positive ∘ (wordsByScale_eq_nil_iff graded_scales).1

theorem ofParts?_numberWords {n : Nat} (fits : n < ceiling scales) :
    ofParts? (partsOf (numberWords n)) = some n := by
  unfold numberWords
  split
  · rename_i zero
    rw [zero]
    decide
  · rename_i positive
    have read := byScale?_wordsByScale graded_scales (Nat.pos_of_ne_zero positive) fits
    unfold ofParts?
    split
    · rename_i zero
      rw [zero] at read
      cases read
    · exact read

structure WellSpaced (text : String) : Prop where
  letters : ∀ c ∈ text.toList, c ∈ smallLetters ∨ c = ' ' ∨ c = '-'
  single : ¬ [' ', ' '] <:+: text.toList
  head : text.toList.head? ≠ some ' '
  last : text.toList.getLast? ≠ some ' '

section Spellings

variable {words : List String} (inhabited : words ≠ []) (each : ∀ word ∈ words, NumberWord word)
include each

theorem mapM_partsOfWord? : words.mapM partsOfWord? = some (words.map (pieces '-')) := by
  induction words with
  | nil => rfl
  | cons word words ih =>
    obtain ⟨first, rest⟩ := List.forall_mem_cons.1 each
    rw [List.mapM_cons, first.parts, ih rest]
    rfl

include inhabited

theorem splitAll_words :
    splitAll ' ' (" ".intercalate words).toList = words.map String.toList := by
  rw [String.toList_intercalate]
  refine splitAll_intercalate (by simpa using inhabited) fun piece member => ?_
  obtain ⟨word, listed, rfl⟩ := List.mem_map.1 member
  intro blank
  exact absurd ((each word listed).letters ' ' blank) (by decide)

theorem partsOfConstant_inCapitals :
    partsOfConstant (inCapitals (" ".intercalate words)) = partsOf words := by
  have blank : inCapitals " " = ['_'] := by decide
  induction words with
  | nil => exact absurd rfl inhabited
  | cons word words ih =>
    obtain ⟨first, rest⟩ := List.forall_mem_cons.1 each
    cases words with
    | nil => rw [String.intercalate_singleton, first.capitals, partsOf, List.flatMap_singleton]
    | cons next words =>
      rw [String.intercalate_cons_cons, inCapitals_append, inCapitals_append, blank,
        List.append_assoc, List.singleton_append, partsOfConstant_append, first.capitals,
        ih (List.cons_ne_nil _ _) rest]
      rfl

theorem wellSpaced_intercalate : WellSpaced (" ".intercalate words) := by
  have filled : [] ∉ splitAll ' ' (" ".intercalate words).toList := by
    rw [splitAll_words inhabited each]
    intro empty
    obtain ⟨word, listed, bare⟩ := List.mem_map.1 empty
    exact (each word listed).inhabited bare
  refine ⟨fun c member => ?_, not_infix_of_filled filled, head?_ne_of_filled filled,
    getLast?_ne_of_filled filled⟩
  rcases exists_piece_of_mem (c := ' ') member with blank | ⟨piece, listed, inside⟩
  · exact .inr (.inl blank)
  · rw [splitAll_words inhabited each] at listed
    obtain ⟨word, spelled, rfl⟩ := List.mem_map.1 listed
    exact ((each word spelled).letters c inside).imp_right .inr

end Spellings

variable {n : Nat}

theorem ofText?_spellOut (fits : n < ceiling scales) : ofText? (spellOut n) = some n := by
  have words := splitAll_words (numberWords_ne_nil n) (numberWord_of_mem fits)
  have cut : pieces ' ' (spellOut n) = numberWords n := by
    rw [pieces, spellOut, words]
    simp [Function.comp_def]
  rw [ofText?, cut, mapM_partsOfWord? (numberWord_of_mem fits)]
  exact ofParts?_numberWords fits

theorem ofConstant?_numberConstant (fits : n < ceiling scales) :
    ofConstant? (numberConstant n) = some n := by
  have parts := partsOfConstant_inCapitals (numberWords_ne_nil n) (numberWord_of_mem fits)
  rw [ofConstant?, ← ofParts?_numberWords fits, ← parts]
  rfl

theorem byGreatestScale?_numberWords (fits : n < ceiling scales) :
    byGreatestScale? n = some (numberWords n) := by
  unfold numberWords
  split
  · rename_i zero
    rw [zero, byGreatestScale?_belowThousand (by decide)]
    rfl
  · rename_i positive
    have all : scales = [] ++ scales := rfl
    exact byGreatestScale?_wordsByScale all graded_scales
      (Nat.pos_of_ne_zero positive) fits (by simp)

/-- The words of a number come from the tables, stand well apart and are read back. -/
structure ReadBack (n : Nat) : Prop where
  lookedUp : byGreatestScale? n = some (numberWords n)
  spaced : WellSpaced (spellOut n)
  read : ofText? (spellOut n) = some n

/-- The digits spell the value, possibly with zeros in front. -/
structure Denotes (digits : String) (value : UInt64) : Prop where
  inhabited : digits ≠ ""
  each : ∀ c ∈ digits.toList, c.isDigit = true
  value_eq : digitsValue digits.toList = value.toNat

theorem lt_ceiling (v : UInt64) : v.toNat < ceiling scales :=
  v.toNat_lt_size.trans (by decide)

theorem spellLeadingDigits_of_denotes {digits : String} {v : UInt64} (denotes : Denotes digits v) :
    spellLeadingDigits digits = String.ofList (numberConstant v.toNat) := by
  have front : digits.toList.takeWhile Char.isDigit = digits.toList :=
    List.takeWhile_eq_self_iff.2 denotes.each
  have rest : digits.toList.dropWhile Char.isDigit = [] := List.dropWhile_eq_nil_iff.2 denotes.each
  have some : digits.toList.isEmpty = false := by
    simpa using denotes.inhabited
  unfold spellLeadingDigits
  simp only [front, rest, some, denotes.value_eq, v.toNat_lt_size, if_true, Bool.false_eq_true,
    if_false, List.append_nil]

end Cardinals

open Cardinals

theorem numbers_read_back (v w : UInt64) :
    ReadBack v.toNat ∧ (spellOut v.toNat = spellOut w.toNat ↔ v = w) ∧
    ∀ s t : String, Denotes s v → Denotes t w →
      (spellLeadingDigits s = spellLeadingDigits t ↔ v = w) := by
  have fits := lt_ceiling v
  have fits' := lt_ceiling w
  refine ⟨⟨byGreatestScale?_numberWords fits,
      wellSpaced_intercalate (numberWords_ne_nil _) (numberWord_of_mem fits),
      ofText?_spellOut fits⟩, ⟨fun same => ?_, fun same => same ▸ rfl⟩, fun s t denotes denotes' => ?_⟩
  · have read := ofText?_spellOut fits'
    rw [← same, ofText?_spellOut fits, Option.some_inj] at read
    exact UInt64.toNat_inj.1 read
  · rw [spellLeadingDigits_of_denotes denotes, spellLeadingDigits_of_denotes denotes']
    refine ⟨fun same => ?_, fun same => same ▸ rfl⟩
    have read := ofConstant?_numberConstant fits'
    rw [← String.ofList_injective same, ofConstant?_numberConstant fits, Option.some_inj] at read
    exact UInt64.toNat_inj.1 read

theorem numbers_read_back_padded :
    Denotes "21" 21 ∧ Denotes "02048" 2048 ∧ ReadBack 21 ∧
    spellOut 21 ≠ spellOut 2048 ∧ spellLeadingDigits "21" ≠ spellLeadingDigits "02048" := by
  have denotes : Denotes "21" 21 :=
    ⟨by decide, List.all_eq_true.1 (by decide), by decide⟩
  have denotes' : Denotes "02048" 2048 :=
    ⟨by decide, List.all_eq_true.1 (by decide), by decide⟩
  obtain ⟨read, spellings, names⟩ := numbers_read_back 21 2048
  have apart : (21 : UInt64) ≠ 2048 := by decide
  exact ⟨denotes, denotes', read, apart ∘ spellings.1, apart ∘ (names _ _ denotes denotes').1⟩

end Bindwright.Naming
