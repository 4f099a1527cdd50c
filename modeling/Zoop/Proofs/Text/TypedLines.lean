import Zoop.Console

/-!
# Typed lines

A typed text is read line by line.  Its lines are said here by rules, one for each way in which a line
ends, and computed from the pieces of the text; a text that comes as bytes has the same pieces, since no
byte of another character is that of a line feed.
-/

namespace Zoop

namespace Text

/-! ## The lines of a text -/

/-- The lines of a typed text.  A line feed ends a line, and one carriage return right before it goes
away with it; what comes after the last line feed is a line as it is, unless it is empty. -/
inductive Typed : List Char → List String → Prop
  | nothing : Typed [] []
  | unended {line : List Char} (nonempty : line ≠ []) (noFeed : '\n' ∉ line) :
      Typed line [String.ofList line]
  | fed {line rest : List Char} {lines : List String}
      (noFeed : '\n' ∉ line) (noReturn : line.getLast? ≠ some '\r') (later : Typed rest lines) :
      Typed (line ++ '\n' :: rest) (String.ofList line :: lines)
  | returned {line rest : List Char} {lines : List String}
      (noFeed : '\n' ∉ line) (later : Typed rest lines) :
      Typed (line ++ '\r' :: '\n' :: rest) (String.ofList line :: lines)

/-- The lines of a typed text, from its pieces. -/
def typedLines (text : List Char) : List String :=
  (pieces text).map fun piece => String.ofList (withoutEnding piece)

theorem pieces_of_unended {line : List Char} (nonempty : line ≠ []) (noFeed : '\n' ∉ line) :
    pieces line = [line] := by
  induction line with
  | nil => exact absurd rfl nonempty
  | cons character rest inductionHypothesis =>
      have notFeed := List.ne_of_not_mem_cons noFeed
      have noFeedLater := List.not_mem_of_not_mem_cons noFeed
      rw [pieces, if_neg (Ne.symm notFeed)]
      by_cases atEnd : rest = []
      · subst atEnd
        rfl
      · rw [inductionHypothesis atEnd noFeedLater]

theorem pieces_of_feed {line : List Char} (noFeed : '\n' ∉ line) (rest : List Char) :
    pieces (line ++ '\n' :: rest) = (line ++ ['\n']) :: pieces rest := by
  induction line with
  | nil => rfl
  | cons character line inductionHypothesis =>
      have notFeed := List.ne_of_not_mem_cons noFeed
      have noFeedLater := List.not_mem_of_not_mem_cons noFeed
      rw [List.cons_append, pieces, if_neg (Ne.symm notFeed), inductionHypothesis noFeedLater]
      rfl

theorem withoutEnding_of_unended {line : List Char} (noFeed : '\n' ∉ line) :
    withoutEnding line = line := by
  have noFeed : '\n' ∉ line.reverse := by rwa [List.mem_reverse]
  unfold withoutEnding
  split
  · next ends => simp [ends] at noFeed
  · next ends => simp [ends] at noFeed
  · rfl

theorem withoutEnding_of_feed {line : List Char} (noReturn : line.getLast? ≠ some '\r') :
    withoutEnding (line ++ ['\n']) = line := by
  have reversed : (line ++ ['\n']).reverse = '\n' :: line.reverse := by simp
  rw [List.getLast?_eq_head?_reverse] at noReturn
  unfold withoutEnding
  rw [reversed]
  split
  · next rest ends =>
      injection ends with _ ends
      simp [ends] at noReturn
  · next ends =>
      injection ends with _ ends
      rw [← ends, List.reverse_reverse]
  · next other => exact absurd rfl (other line.reverse)

theorem withoutEnding_of_return (line : List Char) :
    withoutEnding (line ++ ['\r', '\n']) = line := by
  simp [withoutEnding]

theorem Typed.eq_typedLines {text : List Char} {lines : List String} (typed : Typed text lines) :
    lines = typedLines text := by
  induction typed with
  | nothing => rfl
  | unended nonempty noFeed =>
      rw [typedLines, pieces_of_unended nonempty noFeed, List.map_singleton,
        withoutEnding_of_unended noFeed]
  | fed noFeed noReturn _ inductionHypothesis =>
      rw [typedLines, pieces_of_feed noFeed, List.map_cons, withoutEnding_of_feed noReturn,
        inductionHypothesis, typedLines]
  | @returned line rest lines noFeed _ inductionHypothesis =>
      have noFeedBefore : '\n' ∉ line ++ ['\r'] := by simpa using noFeed
      have cut := pieces_of_feed noFeedBefore rest
      rw [List.append_assoc, List.append_assoc] at cut
      rw [typedLines, show line ++ '\r' :: '\n' :: rest = line ++ (['\r'] ++ '\n' :: rest) from rfl,
        cut, List.map_cons, inductionHypothesis, typedLines]
      rw [show line ++ (['\r'] ++ ['\n']) = line ++ ['\r', '\n'] from rfl,
        withoutEnding_of_return line]

theorem exists_typed (text : List Char) : ∃ lines, Typed text lines := by
  -- a line that has been cut off leaves a shorter text
  induction size : text.length using Nat.strongRecOn generalizing text with
  | ind length inductionHypothesis =>
      subst size
      by_cases hasFeed : '\n' ∈ text
      · obtain ⟨line, rest, rfl, noFeed⟩ := List.eq_append_cons_of_mem hasFeed
        have shorter : rest.length < (line ++ '\n' :: rest).length := by
          rw [List.length_append, List.length_cons]
          omega
        obtain ⟨lines, later⟩ := inductionHypothesis rest.length shorter rest rfl
        by_cases ends : line.getLast? = some '\r'
        · obtain ⟨line, rfl⟩ := List.getLast?_eq_some_iff.mp ends
          have noFeedBefore : '\n' ∉ line := fun member => noFeed (List.mem_append_left _ member)
          rw [List.append_assoc]
          exact ⟨_, .returned noFeedBefore later⟩
        · exact ⟨_, .fed noFeed ends later⟩
      · by_cases nonempty : text = []
        · subst nonempty
          exact ⟨_, .nothing⟩
        · exact ⟨_, .unended nonempty hasFeed⟩

/-- Every typed text has its lines, and no others. -/
theorem typed_iff {text : List Char} {lines : List String} :
    Typed text lines ↔ lines = typedLines text := by
  refine ⟨Typed.eq_typedLines, ?_⟩
  rintro rfl
  obtain ⟨lines, typed⟩ := exists_typed text
  rwa [← typed.eq_typedLines]

end Text

namespace StreamConsole

/-! ## The bytes of a text -/

/-- The bytes of a text. -/
def encode (text : List Char) : List UInt8 :=
  text.flatMap String.utf8EncodeChar

theorem encode_cons (character : Char) (rest : List Char) :
    encode (character :: rest) = String.utf8EncodeChar character ++ encode rest :=
  rfl

theorem ten_ne_ofNat {number : Nat} (small : number < 256) (notTen : number ≠ 10) :
    (10 : UInt8) ≠ UInt8.ofNat number := by
  intro same
  have sameNumber : 10 = number % 256 := congrArg UInt8.toNat same
  omega

/-- Characters of more than one byte have only bytes from 128 on. -/
theorem feed_notMem_utf8EncodeChar {character : Char} (notFeed : character ≠ '\n') :
    (10 : UInt8) ∉ String.utf8EncodeChar character := by
  have notTen : character.val.toNat ≠ 10 := by
    intro isTen
    exact notFeed (Char.ext (UInt32.toNat_inj.mp isTen))
  fun_cases String.utf8EncodeChar character with
  | case1 value small =>
      have notByte := ten_ne_ofNat (Nat.lt_of_le_of_lt small (by decide)) notTen
      simpa only [List.mem_singleton] using notByte
  | case2 value =>
      simp only [List.mem_cons, List.not_mem_nil, or_false, not_or]
      exact ⟨ten_ne_ofNat (by omega) (by omega), ten_ne_ofNat (by omega) (by omega)⟩
  | case3 value =>
      simp only [List.mem_cons, List.not_mem_nil, or_false, not_or]
      exact ⟨ten_ne_ofNat (by omega) (by omega), ten_ne_ofNat (by omega) (by omega),
        ten_ne_ofNat (by omega) (by omega)⟩
  | case4 value =>
      simp only [List.mem_cons, List.not_mem_nil, or_false, not_or]
      exact ⟨ten_ne_ofNat (by omega) (by omega), ten_ne_ofNat (by omega) (by omega),
        ten_ne_ofNat (by omega) (by omega), ten_ne_ofNat (by omega) (by omega)⟩

theorem bytePieces_append_of_nil
    {bytes rest : List UInt8} (nonempty : bytes ≠ []) (noFeed : 10 ∉ bytes)
    (nothing : bytePieces rest = []) : bytePieces (bytes ++ rest) = [bytes] := by
  induction bytes with
  | nil => exact absurd rfl nonempty
  | cons byte bytes inductionHypothesis =>
      have notFeed := List.ne_of_not_mem_cons noFeed
      have noFeedLater := List.not_mem_of_not_mem_cons noFeed
      rw [List.cons_append, bytePieces, if_neg (Ne.symm notFeed)]
      by_cases atEnd : bytes = []
      · rw [atEnd, List.nil_append, nothing]
      · rw [inductionHypothesis atEnd noFeedLater]

theorem bytePieces_append_of_cons
    {bytes rest piece : List UInt8} {others : List (List UInt8)} (noFeed : 10 ∉ bytes)
    (cut : bytePieces rest = piece :: others) :
    bytePieces (bytes ++ rest) = (bytes ++ piece) :: others := by
  induction bytes with
  | nil => exact cut
  | cons byte bytes inductionHypothesis =>
      have notFeed := List.ne_of_not_mem_cons noFeed
      have noFeedLater := List.not_mem_of_not_mem_cons noFeed
      rw [List.cons_append, bytePieces, if_neg (Ne.symm notFeed), inductionHypothesis noFeedLater]
      rfl

/-- The bytes of a text are cut where the text is. -/
theorem bytePieces_encode (text : List Char) :
    bytePieces (encode text) = (Text.pieces text).map encode := by
  induction text with
  | nil => rfl
  | cons character rest inductionHypothesis =>
      rw [encode_cons, Text.pieces]
      by_cases isFeed : character = '\n'
      · rw [if_pos isFeed, isFeed, List.map_cons, ← inductionHypothesis]
        rfl
      · rw [if_neg isFeed]
        have noFeed := feed_notMem_utf8EncodeChar isFeed
        cases cut : Text.pieces rest with
        | nil =>
            rw [cut, List.map_nil] at inductionHypothesis
            rw [bytePieces_append_of_nil String.utf8EncodeChar_ne_nil noFeed inductionHypothesis]
            simp [encode]
        | cons piece others =>
            rw [cut, List.map_cons] at inductionHypothesis
            rw [bytePieces_append_of_cons noFeed inductionHypothesis]
            rfl

theorem decode?_encode (text : List Char) : decode? (encode text) = some text := by
  have bytes : ByteArray.mk (encode text).toArray = text.utf8Encode := by
    apply ByteArray.ext
    simp [encode, List.utf8Encode]
  have valid : text.utf8Encode.IsValidUTF8 := ByteArray.isValidUTF8_utf8Encode
  have read : String.fromUTF8? text.utf8Encode = some (String.ofList text) := dif_pos valid
  rw [decode?, bytes, read, Option.map_some, String.toList_ofList]

/-- A text is typed as its bytes. -/
theorem ofBytes_toUTF8 (text : String) :
    ofBytes text.toUTF8.data.toList = ofText text.toList := by
  have bytes : text.toUTF8.data.toList = encode text.toList := by
    rw [String.toUTF8_eq_toByteArray, ← String.utf8Encode_toList]
    simp [encode, List.utf8Encode]
  rw [bytes, ofBytes, ofText, bytePieces_encode, List.map_map]
  exact congrArg _ (List.map_congr_left fun piece _ => decode?_encode piece)

end StreamConsole

end Zoop
