import Mathlib.Data.List.TakeWhile
import Zoop.Word

/-!
# Longest words

A recogniser of words takes the longest first part of a text that is in its language.  Whether it takes
a whole text is then whether the text is in the language.
-/

namespace Zoop.Word

/-! ## Languages and recognisers -/

/-- The longest first part of a text that is in a language, and the rest of the text. -/
structure IsLongest (language : List Char → Prop) (text taken rest : List Char) : Prop where
  parts : taken ++ rest = text
  belongs : language taken
  longest : ∀ front, front <+: text → language front → front.length ≤ taken.length

/-- A recogniser takes words of a language.  From a word with anything behind it, it takes at least the
word. -/
structure Takes
    (recognizer : List Char → Option (List Char × List Char)) (language : List Char → Prop) :
    Prop where
  parts : ∀ {text taken rest}, recognizer text = some (taken, rest) → taken ++ rest = text
  belongs : ∀ {text taken rest}, recognizer text = some (taken, rest) → language taken
  extends_word : ∀ {word}, language word → ∀ behind,
    ∃ more rest, recognizer (word ++ behind) = some (word ++ more, rest)

theorem takesAll_eq_true_iff {found : Option (List Char × List Char)} :
    takesAll found = true ↔ ∃ taken, found = some (taken, []) := by
  unfold takesAll
  split
  · next taken => exact iff_of_true rfl ⟨taken, rfl⟩
  · next other => exact iff_of_false nofun fun ⟨taken, found⟩ => other taken found

namespace Takes

variable {recognizer : List Char → Option (List Char × List Char)} {language : List Char → Prop}

/-- What is taken is exactly the longest first part in the language. -/
theorem eq_some_iff (takes : Takes recognizer language) {text taken rest : List Char} :
    recognizer text = some (taken, rest) ↔ IsLongest language text taken rest := by
  constructor
  · intro found
    refine ⟨takes.parts found, takes.belongs found, ?_⟩
    rintro front ⟨behind, rfl⟩ belongs
    obtain ⟨more, left, again⟩ := takes.extends_word belongs behind
    rw [found] at again
    cases again
    rw [List.length_append]
    exact Nat.le_add_right _ _
  · rintro ⟨rfl, belongs, longest⟩
    obtain ⟨more, left, found⟩ := takes.extends_word belongs rest
    have parts := takes.parts found
    have noLonger := longest (taken ++ more) ⟨left, parts⟩ (takes.belongs found)
    rw [List.length_append] at noLonger
    obtain rfl : more = [] := List.length_eq_zero_iff.mp (by omega)
    rw [List.append_nil] at found parts
    rw [found, List.append_cancel_left parts]

theorem takesAll_iff (takes : Takes recognizer language) {text : List Char} :
    takesAll (recognizer text) = true ↔ language text := by
  rw [takesAll_eq_true_iff]
  constructor
  · rintro ⟨taken, found⟩
    have whole := takes.parts found
    rw [List.append_nil] at whole
    rw [← whole]
    exact takes.belongs found
  · intro belongs
    have isLongest : IsLongest language text text [] :=
      ⟨List.append_nil text, belongs, fun _ isFront _ => isFront.length_le⟩
    exact ⟨text, takes.eq_some_iff.mpr isLongest⟩

end Takes

/-! ## Identifiers -/

/-- A letter, and then letters and digits. -/
inductive IsIdentifierText : List Char → Prop
  | named {first : Char} {others : List Char} (letter : first.isAlpha = true)
      (lettersAndDigits : ∀ character ∈ others, character.isAlphanum = true) :
      IsIdentifierText (first :: others)

/-- The letters that a text starts with are the first of the letters and digits that it starts with. -/
theorem letters_then_alphanumerics (text : List Char) :
    text.takeWhile Char.isAlpha ++ (text.dropWhile Char.isAlpha).takeWhile Char.isAlphanum =
        text.takeWhile Char.isAlphanum ∧
      (text.dropWhile Char.isAlpha).dropWhile Char.isAlphanum = text.dropWhile Char.isAlphanum := by
  have isAlphanum : ∀ character ∈ text.takeWhile Char.isAlpha, character.isAlphanum = true := by
    intro character member
    have letter : character.isAlpha = true := List.mem_takeWhile_imp member
    simp [Char.isAlphanum, letter]
  have parts := List.takeWhile_append_dropWhile (p := Char.isAlpha) (l := text)
  constructor
  · rw [← List.takeWhile_append_of_pos isAlphanum, parts]
  · rw [← List.dropWhile_append_of_pos isAlphanum, parts]

/-- The two runs of an identifier join: behind its first letter stand all letters and digits that follow
there. -/
theorem identifier?_cons (first : Char) (rest : List Char) :
    identifier? (first :: rest) =
      if first.isAlpha then
        some (first :: rest.takeWhile Char.isAlphanum, rest.dropWhile Char.isAlphanum)
      else
        none := by
  unfold identifier?
  by_cases letter : first.isAlpha = true
  · obtain ⟨taken, left⟩ := letters_then_alphanumerics rest
    rw [List.takeWhile_cons_of_pos letter, List.dropWhile_cons_of_pos letter, if_pos letter, ← taken,
      ← left]
    rfl
  · rw [List.takeWhile_cons_of_neg letter, if_neg letter]
    rfl

theorem identifier?_eq_some
    {text taken rest : List Char} (found : identifier? text = some (taken, rest)) :
    taken ++ rest = text ∧ IsIdentifierText taken := by
  cases text with
  | nil => cases found
  | cons first others =>
      rw [identifier?_cons] at found
      split at found
      · next letter =>
          cases found
          exact ⟨congrArg (first :: ·) List.takeWhile_append_dropWhile,
            .named letter fun _ => List.mem_takeWhile_imp⟩
      · cases found

/-- An identifier goes on with all letters and digits behind it. -/
theorem identifier?_append
    {word : List Char} (belongs : IsIdentifierText word) (behind : List Char) :
    identifier? (word ++ behind) =
      some (word ++ behind.takeWhile Char.isAlphanum, behind.dropWhile Char.isAlphanum) := by
  cases belongs with
  | named letter lettersAndDigits =>
      rw [List.cons_append, identifier?_cons, if_pos letter,
        List.takeWhile_append_of_pos lettersAndDigits,
        List.dropWhile_append_of_pos lettersAndDigits]
      rfl

theorem takes_identifier? : Takes identifier? IsIdentifierText where
  parts found := (identifier?_eq_some found).1
  belongs found := (identifier?_eq_some found).2
  extends_word belongs behind := ⟨_, _, identifier?_append belongs behind⟩

theorem isSome_identifier? (text : List Char) :
    (identifier? text).isSome = text.head?.any Char.isAlpha := by
  cases text with
  | nil => rfl
  | cons first rest =>
      rw [identifier?_cons, List.head?_cons, Option.any_some]
      split
      · next letter => exact letter.symm
      · next other => exact (Bool.eq_false_iff.mpr other).symm

/-- A whole text is an identifier exactly if it is a letter, and then letters and digits. -/
theorem isIdentifier_iff {text : List Char} : isIdentifier text = true ↔ IsIdentifierText text :=
  takes_identifier?.takesAll_iff

end Zoop.Word
