import Zoop.Text.LineEnding

/-!
# Normal forms of sources

A source is brought to its normal form by three substitutions, each over the whole text.  Together they
are one pass from left to right, in which a line ending of any kind becomes one line feed.  Two sources
can be brought to their normal forms apart, as long as no line ending is cut between them.
-/

namespace Zoop.Text

/-! ## One pass over a text -/

/-- One pass from left to right: each pair of a carriage return and a line feed, and each carriage
return that is left, becomes one line feed. -/
def unifyEndings : List Char → List Char
  | [] => []
  | '\r' :: '\n' :: rest => '\n' :: unifyEndings rest
  | '\r' :: rest => '\n' :: unifyEndings rest
  | character :: rest => character :: unifyEndings rest

section Steps

variable {character : Char} {rest : List Char}

theorem unifyEndings_pair (rest : List Char) :
    unifyEndings ('\r' :: '\n' :: rest) = '\n' :: unifyEndings rest :=
  rfl

theorem unifyEndings_return (noFeed : rest.head? ≠ some '\n') :
    unifyEndings ('\r' :: rest) = '\n' :: unifyEndings rest := by
  cases rest with
  | nil => rfl
  | cons next others => exact unifyEndings.eq_3 _ fun _ same => noFeed (by rw [same]; rfl)

theorem unifyEndings_other (noReturn : character ≠ '\r') :
    unifyEndings (character :: rest) = character :: unifyEndings rest :=
  unifyEndings.eq_4 _ _ (fun _ isReturn _ => noReturn isReturn) noReturn

theorem joinReturnPairs_return (noFeed : rest.head? ≠ some '\n') :
    joinReturnPairs ('\r' :: rest) = '\r' :: joinReturnPairs rest :=
  joinReturnPairs.eq_3 _ _ fun _ _ same => noFeed (by rw [same]; rfl)

theorem joinReturnPairs_other (noReturn : character ≠ '\r') :
    joinReturnPairs (character :: rest) = character :: joinReturnPairs rest :=
  joinReturnPairs.eq_3 _ _ fun _ isReturn _ => absurd isReturn noReturn

end Steps

/-- A text is taken apart into pairs, carriage returns that are left, and other characters. -/
theorem endings_induction
    {motive : List Char → Prop} (nil : motive [])
    (pair : ∀ rest, motive rest → motive ('\r' :: '\n' :: rest))
    (loneReturn : ∀ rest, rest.head? ≠ some '\n' → motive rest → motive ('\r' :: rest))
    (other : ∀ character rest, character ≠ '\r' → motive rest → motive (character :: rest))
    (text : List Char) : motive text := by
  induction text using unifyEndings.induct with
  | case1 => exact nil
  | case2 rest inductionHypothesis => exact pair rest inductionHypothesis
  | case3 rest noPair inductionHypothesis =>
      refine loneReturn rest ?_ inductionHypothesis
      intro starts
      obtain ⟨others, rfl⟩ := List.head?_eq_some_iff.mp starts
      exact noPair others rfl
  | case4 character rest _ noReturn inductionHypothesis =>
      exact other character rest noReturn inductionHypothesis

/-- What one pass leaves is either a line feed or a character that was there and is no carriage
return. -/
theorem mem_unifyEndings
    {character : Char} {text : List Char} (member : character ∈ unifyEndings text) :
    character = '\n' ∨ (character ∈ text ∧ character ≠ '\r') := by
  induction text using endings_induction with
  | nil => cases member
  | pair rest inductionHypothesis =>
      rw [unifyEndings_pair] at member
      rcases List.mem_cons.mp member with isFeed | later
      · exact .inl isFeed
      · exact (inductionHypothesis later).imp_right
          (.imp_left fun there => List.mem_cons_of_mem _ (List.mem_cons_of_mem _ there))
  | loneReturn rest noFeed inductionHypothesis =>
      rw [unifyEndings_return noFeed] at member
      rcases List.mem_cons.mp member with isFeed | later
      · exact .inl isFeed
      · exact (inductionHypothesis later).imp_right (.imp_left (List.mem_cons_of_mem _))
  | other first rest noReturn inductionHypothesis =>
      rw [unifyEndings_other noReturn] at member
      rcases List.mem_cons.mp member with rfl | later
      · exact .inr ⟨List.mem_cons_self, noReturn⟩
      · exact (inductionHypothesis later).imp_right (.imp_left (List.mem_cons_of_mem _))

theorem unifyEndings_of_no_return {text : List Char} (noReturn : '\r' ∉ text) :
    unifyEndings text = text := by
  induction text with
  | nil => rfl
  | cons first rest inductionHypothesis =>
      rw [List.mem_cons, not_or] at noReturn
      rw [unifyEndings_other (Ne.symm noReturn.1), inductionHypothesis noReturn.2]

/-! ## Texts one after the other -/

/-- The first text ends within a pair, which the second one completes. -/
def CutsPair (front back : List Char) : Prop :=
  front.getLast? = some '\r' ∧ back.head? = some '\n'

theorem CutsPair.cons
    {front back : List Char} (first : Char) (cut : CutsPair front back) :
    CutsPair (first :: front) back := by
  refine ⟨?_, cut.2⟩
  rw [List.getLast?_cons, cut.1]
  rfl

/-- Two texts are passed over apart unless a pair is cut between them. -/
theorem unifyEndings_append {front back : List Char} (uncut : ¬CutsPair front back) :
    unifyEndings (front ++ back) = unifyEndings front ++ unifyEndings back := by
  induction front using endings_induction with
  | nil => rfl
  | pair rest inductionHypothesis =>
      have later := inductionHypothesis fun cut => uncut ((cut.cons '\n').cons '\r')
      rw [unifyEndings_pair, List.cons_append, List.cons_append, unifyEndings_pair, later,
        List.cons_append]
  | loneReturn rest noFeed inductionHypothesis =>
      have later := inductionHypothesis fun cut => uncut (cut.cons '\r')
      have noFeedBehind : (rest ++ back).head? ≠ some '\n' := by
        cases rest with
        | nil => exact fun isFeed => uncut ⟨rfl, isFeed⟩
        | cons next others => exact noFeed
      rw [unifyEndings_return noFeed, List.cons_append, unifyEndings_return noFeedBehind, later,
        List.cons_append]
  | other first rest noReturn inductionHypothesis =>
      have later := inductionHypothesis fun cut => uncut (cut.cons first)
      rw [unifyEndings_other noReturn, List.cons_append, unifyEndings_other noReturn, later,
        List.cons_append]

/-- The two halves of a pair that is cut become two line feeds, where the pair becomes one. -/
theorem length_unifyEndings_of_cut {front back : List Char} (cut : CutsPair front back) :
    (unifyEndings (front ++ back)).length + 1 =
      (unifyEndings front).length + (unifyEndings back).length := by
  obtain ⟨before, rfl⟩ := List.getLast?_eq_some_iff.mp cut.1
  obtain ⟨behind, rfl⟩ := List.head?_eq_some_iff.mp cut.2
  have ended : unifyEndings (before ++ ['\r']) = unifyEndings before ++ ['\n'] :=
    unifyEndings_append fun cut => nomatch cut.2
  have started : unifyEndings ('\n' :: behind) = '\n' :: unifyEndings behind :=
    unifyEndings_other (by decide)
  have joined :
      unifyEndings (before ++ '\r' :: '\n' :: behind) =
        unifyEndings before ++ '\n' :: unifyEndings behind :=
    unifyEndings_append fun cut => nomatch cut.2
  rw [List.append_assoc, List.singleton_append, joined, ended, started]
  simp only [List.length_append, List.length_cons, List.length_nil]
  omega

theorem unifyEndings_append_iff {front back : List Char} :
    unifyEndings (front ++ back) = unifyEndings front ++ unifyEndings back ↔
      ¬CutsPair front back := by
  refine ⟨?_, unifyEndings_append⟩
  intro same cut
  have shorter := length_unifyEndings_of_cut cut
  rw [same, List.length_append] at shorter
  omega

/-! ## Normal forms -/

/-- Joining the pairs first and replacing the carriage returns that are left is one pass. -/
theorem replaceReturns_joinReturnPairs (text : List Char) :
    replaceReturns (joinReturnPairs text) = unifyEndings text := by
  induction text using endings_induction with
  | nil => rfl
  | pair rest inductionHypothesis =>
      rw [unifyEndings_pair, ← inductionHypothesis]
      rfl
  | loneReturn rest noFeed inductionHypothesis =>
      rw [unifyEndings_return noFeed, joinReturnPairs_return noFeed, ← inductionHypothesis]
      rfl
  | other character rest noReturn inductionHypothesis =>
      have stays : replaceReturns [character] = [character] :=
        congrArg (fun replaced => [replaced]) (if_neg noReturn)
      rw [unifyEndings_other noReturn, joinReturnPairs_other noReturn, ← inductionHypothesis]
      exact congrArg (· ++ replaceReturns (joinReturnPairs rest)) stays

theorem normalizeChars_eq (text : List Char) :
    normalizeChars text = unifyEndings (dropNulls text) :=
  replaceReturns_joinReturnPairs (dropNulls text)

theorem toList_normalize (source : String) :
    (normalize source).toList = normalizeChars source.toList :=
  String.toList_ofList

theorem dropNulls_of_no_null {text : List Char} (noNull : '\x00' ∉ text) : dropNulls text = text := by
  apply List.filter_eq_self.mpr
  intro character member
  exact decide_eq_true fun isNull => noNull (isNull ▸ member)

theorem null_notMem_normalizeChars (text : List Char) : '\x00' ∉ normalizeChars text := by
  rw [normalizeChars_eq]
  intro member
  rcases mem_unifyEndings member with isFeed | ⟨there, _⟩
  · cases isFeed
  · exact of_decide_eq_true (List.mem_filter.mp there).2 rfl

theorem return_notMem_normalizeChars (text : List Char) : '\r' ∉ normalizeChars text := by
  rw [normalizeChars_eq]
  intro member
  rcases mem_unifyEndings member with isFeed | ⟨_, noReturn⟩
  · cases isFeed
  · exact noReturn rfl

theorem normalizeChars_eq_self
    {text : List Char} (noNull : '\x00' ∉ text) (noReturn : '\r' ∉ text) :
    normalizeChars text = text := by
  rw [normalizeChars_eq, dropNulls_of_no_null noNull, unifyEndings_of_no_return noReturn]

theorem normalize_eq_self
    {source : String} (noNull : '\x00' ∉ source.toList) (noReturn : '\r' ∉ source.toList) :
    normalize source = source := by
  rw [normalize, normalizeChars_eq_self noNull noReturn, String.ofList_toList]

/-- Without the NULs, a pair is cut between two sources or it is not. -/
theorem normalize_append_iff (front back : String) :
    normalize (front ++ back) = normalize front ++ normalize back ↔
      ¬CutsPair (dropNulls front.toList) (dropNulls back.toList) := by
  have parts :
      dropNulls (front ++ back).toList = dropNulls front.toList ++ dropNulls back.toList := by
    rw [String.toList_append]
    exact List.filter_append _ _
  rw [← String.toList_inj, String.toList_append, toList_normalize, toList_normalize,
    toList_normalize, normalizeChars_eq, normalizeChars_eq, normalizeChars_eq, parts]
  exact unifyEndings_append_iff

/-- The normal form of a source is what one pass over it leaves, once the NULs are away.  It has neither
NULs nor carriage returns, a source without them is its own normal form, and so is each normal form.  The
normal form of two sources without NULs is that of the one and that of the other, exactly if no pair is
cut between them. -/
theorem normal_form_is_one_pass (source : String) :
    normalize source = String.ofList (unifyEndings (source.toList.filter (· ≠ '\x00'))) ∧
    '\x00' ∉ (normalize source).toList ∧
    '\r' ∉ (normalize source).toList ∧
    normalize (normalize source) = normalize source ∧
    ('\x00' ∉ source.toList → '\r' ∉ source.toList → normalize source = source) ∧
    ∀ later : String, '\x00' ∉ source.toList → '\x00' ∉ later.toList →
      (normalize (source ++ later) = normalize source ++ normalize later ↔
        ¬CutsPair source.toList later.toList) := by
  have onePass : normalize source = String.ofList (unifyEndings (dropNulls source.toList)) :=
    congrArg String.ofList (normalizeChars_eq source.toList)
  have noNull : '\x00' ∉ (normalize source).toList := by
    rw [toList_normalize]
    exact null_notMem_normalizeChars source.toList
  have noReturn : '\r' ∉ (normalize source).toList := by
    rw [toList_normalize]
    exact return_notMem_normalizeChars source.toList
  refine ⟨onePass, noNull, noReturn, normalize_eq_self noNull noReturn, normalize_eq_self, ?_⟩
  intro later sourceNoNull laterNoNull
  have joined := normalize_append_iff source later
  rwa [dropNulls_of_no_null sourceNoNull, dropNulls_of_no_null laterNoNull] at joined

/-- NULs within a pair, a carriage return before a pair, and a pair that is cut or not. -/
theorem normal_form_of_mixed_endings :
    normalize "a\r\x00\nb\r\r\nc" = "a\nb\n\nc" ∧
    normalize "a\nb" = "a\nb" ∧
    normalize ("a\r" ++ "\rb\n") = normalize "a\r" ++ normalize "\rb\n" ∧
    normalize ("a\r" ++ "\nb") ≠ normalize "a\r" ++ normalize "\nb" := by
  have uncut : ¬CutsPair "a\r".toList "\rb\n".toList := fun cut => absurd cut.2 (by decide +kernel)
  have cut : CutsPair "a\r".toList "\nb".toList := ⟨by decide +kernel, by decide +kernel⟩
  obtain ⟨mixed, -⟩ := normal_form_is_one_pass "a\r\x00\nb\r\r\nc"
  obtain ⟨-, -, -, -, identity, -⟩ := normal_form_is_one_pass "a\nb"
  obtain ⟨-, -, -, -, -, joined⟩ := normal_form_is_one_pass "a\r"
  refine ⟨?_, ?_, ?_, ?_⟩
  · rw [mixed]
    decide +kernel
  · exact identity (by decide +kernel) (by decide +kernel)
  · exact (joined "\rb\n" (by decide +kernel) (by decide +kernel)).mpr uncut
  · exact fun same => (joined "\nb" (by decide +kernel) (by decide +kernel)).mp same cut

end Zoop.Text
