import Traceability.Expression.Lexer

/-!
Contract: how lexemes are spelled in an expression.

Within quotes a backslash takes the next character, whatever it is, so every
literal has a spelling. Within slashes only the backslash of an escaped slash is
lost, and the others stay with the character that they take. Hence a pattern has
a spelling exactly if none of its own backslashes takes a slash or stands at the
end.

Owns: spellings, and that scanning inverts them.
Does not own: what stands between lexemes.
-/

namespace Traceability.Expression

open Traceability.Text

/-! ### Literals and patterns -/

/-- What stands between quotes, and the literal that it spells. -/
inductive LiteralBody : List Char → List Char → Prop where
  | nil : LiteralBody [] []
  | plain {c : Char} {body text : List Char} (noQuote : c ≠ '"') (noBackslash : c ≠ '\\')
      (others : LiteralBody body text) : LiteralBody (c :: body) (c :: text)
  | escaped {c : Char} {body text : List Char} (others : LiteralBody body text) :
      LiteralBody ('\\' :: c :: body) (c :: text)

/-- What stands between slashes, and the pattern that it spells. -/
inductive PatternBody : List Char → List Char → Prop where
  | nil : PatternBody [] []
  | plain {c : Char} {body text : List Char} (noSlash : c ≠ '/') (noBackslash : c ≠ '\\')
      (others : PatternBody body text) : PatternBody (c :: body) (c :: text)
  | slash {body text : List Char} (others : PatternBody body text) :
      PatternBody ('\\' :: '/' :: body) ('/' :: text)
  | escaped {c : Char} {body text : List Char} (noSlash : c ≠ '/')
      (others : PatternBody body text) : PatternBody ('\\' :: c :: body) ('\\' :: c :: text)

variable {body text scanned after rest spelling : List Char} {c : Char} {lexeme : Lexeme}

theorem scanLiteral_of_body (within : LiteralBody body scanned) :
    scanLiteral (body ++ '"' :: after) = some (scanned, after) := by
  induction within with
  | nil => rfl
  | plain noQuote noBackslash others inductionHypothesis =>
      rw [List.cons_append, scanLiteral, inductionHypothesis]
      · rfl
      · exact noQuote
      · exact fun _ _ isBackslash => absurd isBackslash noBackslash
      · exact fun isBackslash => absurd isBackslash noBackslash
  | escaped others inductionHypothesis =>
      rw [List.cons_append, List.cons_append, scanLiteral, inductionHypothesis]
      rfl

theorem scanLiteral_eq_some_iff :
    scanLiteral text = some (scanned, after) ↔
      ∃ body, LiteralBody body scanned ∧ text = body ++ '"' :: after := by
  constructor
  · intro found
    fun_induction scanLiteral text generalizing scanned with
    | case1 => cases found
    | case2 rest =>
        cases found
        exact ⟨[], .nil, rfl⟩
    | case3 c rest inductionHypothesis =>
        obtain ⟨inner, innerFound, equal⟩ := Option.map_eq_some_iff.mp found
        cases equal
        obtain ⟨body, within, rfl⟩ := inductionHypothesis innerFound
        exact ⟨'\\' :: c :: body, .escaped within, rfl⟩
    | case4 => cases found
    | case5 c rest noQuote noEscape notLast inductionHypothesis =>
        obtain ⟨inner, innerFound, equal⟩ := Option.map_eq_some_iff.mp found
        cases equal
        obtain ⟨body, within, rfl⟩ := inductionHypothesis innerFound
        have noBackslash : c ≠ '\\' := by
          rintro rfl
          cases body with
          | nil => exact noEscape _ _ rfl rfl
          | cons => exact noEscape _ _ rfl rfl
        exact ⟨c :: body, .plain noQuote noBackslash within, rfl⟩
  · rintro ⟨body, within, rfl⟩
    exact scanLiteral_of_body within

theorem scanPattern_of_body (within : PatternBody body scanned) :
    scanPattern (body ++ '/' :: after) = some (scanned, after) := by
  induction within with
  | nil => rfl
  | plain noSlash noBackslash others inductionHypothesis =>
      rw [List.cons_append, scanPattern, inductionHypothesis]
      · rfl
      · exact noSlash
      · exact fun _ isBackslash => absurd isBackslash noBackslash
      · exact fun _ _ isBackslash => absurd isBackslash noBackslash
      · exact fun isBackslash => absurd isBackslash noBackslash
  | slash others inductionHypothesis =>
      rw [List.cons_append, List.cons_append, scanPattern, inductionHypothesis]
      rfl
  | escaped noSlash others inductionHypothesis =>
      rw [List.cons_append, List.cons_append, scanPattern, inductionHypothesis]
      · rfl
      · exact noSlash

theorem scanPattern_eq_some_iff :
    scanPattern text = some (scanned, after) ↔
      ∃ body, PatternBody body scanned ∧ text = body ++ '/' :: after := by
  constructor
  · intro found
    fun_induction scanPattern text generalizing scanned with
    | case1 => cases found
    | case2 rest =>
        cases found
        exact ⟨[], .nil, rfl⟩
    | case3 rest inductionHypothesis =>
        obtain ⟨inner, innerFound, equal⟩ := Option.map_eq_some_iff.mp found
        cases equal
        obtain ⟨body, within, rfl⟩ := inductionHypothesis innerFound
        exact ⟨'\\' :: '/' :: body, .slash within, rfl⟩
    | case4 c rest noSlash inductionHypothesis =>
        obtain ⟨inner, innerFound, equal⟩ := Option.map_eq_some_iff.mp found
        cases equal
        obtain ⟨body, within, rfl⟩ := inductionHypothesis innerFound
        exact ⟨'\\' :: c :: body, .escaped noSlash within, rfl⟩
    | case5 => cases found
    | case6 c rest noSlash noEscapedSlash noEscape notLast inductionHypothesis =>
        obtain ⟨inner, innerFound, equal⟩ := Option.map_eq_some_iff.mp found
        cases equal
        obtain ⟨body, within, rfl⟩ := inductionHypothesis innerFound
        have noBackslash : c ≠ '\\' := by
          rintro rfl
          cases body with
          | nil => exact noEscapedSlash _ rfl rfl
          | cons => exact noEscape _ _ rfl rfl
        exact ⟨c :: body, .plain noSlash noBackslash within, rfl⟩
  · rintro ⟨body, within, rfl⟩
    exact scanPattern_of_body within

/-! ### Lexemes -/

inductive Spells : Lexeme → List Char → Prop where
  | openParen : Spells .openParen ['(']
  | closeParen : Spells .closeParen [')']
  | comma : Spells .comma [',']
  | equal : Spells .equal ['=', '=']
  | unequal : Spells .unequal ['!', '=']
  | literal {body text : List Char} (within : LiteralBody body text) :
      Spells (.literal (String.ofList text)) ('"' :: (body ++ ['"']))
  | pattern {body text : List Char} (within : PatternBody body text) :
      Spells (.pattern (String.ofList text)) ('/' :: (body ++ ['/']))
  | word {first : Char} {others : List Char} (begins : isWordStart first = true)
      (goesOn : ∀ c ∈ others, isWordCharacter c = true) :
      Spells (.word (String.ofList (first :: others))) (first :: others)

def Lexeme.IsWord (lexeme : Lexeme) : Prop := ∃ text, lexeme = .word text

/-- Whether a word that ends before `text` could be longer. -/
def BeginsInWord (text : List Char) : Prop := ∃ c ∈ text.head?, isWordCharacter c = true

theorem isWordCharacter_of_isWordStart (begins : isWordStart c = true) :
    isWordCharacter c = true := by
  simp only [isWordStart, isWordCharacter, Char.isAlphanum, Bool.or_eq_true] at begins ⊢
  rcases begins with isLetter | isUnderscore
  · exact Or.inl (Or.inl isLetter)
  · exact Or.inr isUnderscore

theorem scanLexeme_word (begins : isWordStart c = true) :
    scanLexeme c rest = .ok (.word (String.ofList (c :: rest.takeWhile isWordCharacter)),
      rest.dropWhile isWordCharacter) := by
  unfold scanLexeme
  split
  case h_8 => rw [if_pos begins]
  all_goals exact absurd begins (by decide)

theorem takeWhile_dropWhile_of_ends (goesOn : ∀ c ∈ text, isWordCharacter c = true)
    (ends : ¬BeginsInWord after) :
    (text ++ after).takeWhile isWordCharacter = text ∧
      (text ++ after).dropWhile isWordCharacter = after := by
  rw [List.takeWhile_append_of_pos goesOn, List.dropWhile_append_of_pos goesOn]
  cases after with
  | nil => simp
  | cons head tail =>
      have headEnds : ¬isWordCharacter head = true := fun isWord => ends ⟨head, rfl, isWord⟩
      rw [List.takeWhile_cons_of_neg headEnds, List.dropWhile_cons_of_neg headEnds]
      exact ⟨List.append_nil _, rfl⟩

theorem scanLexeme_of_spells (spells : Spells lexeme spelling)
    (begins : c :: rest = spelling ++ after) (ends : lexeme.IsWord → ¬BeginsInWord after) :
    scanLexeme c rest = .ok (lexeme, after) := by
  cases spells <;> simp only [List.cons_append, List.cons.injEq, List.append_assoc,
    List.nil_append] at begins <;> obtain ⟨rfl, rfl⟩ := begins
  case literal within => simp only [scanLexeme, scanLiteral_of_body within]
  case pattern within => simp only [scanLexeme, scanPattern_of_body within]
  case word others goesOn isStart =>
    obtain ⟨taken, dropped⟩ := takeWhile_dropWhile_of_ends goesOn (ends ⟨_, rfl⟩)
    rw [scanLexeme_word isStart, taken, dropped]
  all_goals rfl

theorem not_beginsInWord_dropWhile (text : List Char) :
    ¬BeginsInWord (text.dropWhile isWordCharacter) := by
  rintro ⟨c, isHead, isWord⟩
  have notWord := List.head?_dropWhile_not isWordCharacter text
  rw [Option.mem_def.mp isHead] at notWord
  exact absurd isWord (by simp [notWord])

theorem spells_of_scanLexeme (scanned : scanLexeme c rest = .ok (lexeme, after)) :
    ∃ spelling, Spells lexeme spelling ∧ c :: rest = spelling ++ after ∧
      (lexeme.IsWord → ¬BeginsInWord after) := by
  unfold scanLexeme at scanned
  split at scanned
  · cases scanned
    exact ⟨_, .openParen, rfl, nofun⟩
  · cases scanned
    exact ⟨_, .closeParen, rfl, nofun⟩
  · cases scanned
    exact ⟨_, .comma, rfl, nofun⟩
  · cases scanned
    exact ⟨_, .equal, rfl, nofun⟩
  · cases scanned
    exact ⟨_, .unequal, rfl, nofun⟩
  · split at scanned
    next found =>
      cases scanned
      obtain ⟨body, within, rfl⟩ := scanLiteral_eq_some_iff.mp found
      exact ⟨_, .literal within, by simp, nofun⟩
    next => cases scanned
  · split at scanned
    next found =>
      cases scanned
      obtain ⟨body, within, rfl⟩ := scanPattern_eq_some_iff.mp found
      exact ⟨_, .pattern within, by simp, nofun⟩
    next => cases scanned
  · split at scanned
    next begins =>
      cases scanned
      refine ⟨_, .word begins ?_, ?_, fun _ => not_beginsInWord_dropWhile rest⟩
      · exact List.all_eq_true.mp List.all_takeWhile
      · rw [List.cons_append, List.takeWhile_append_dropWhile]
    next => cases scanned

/-- What fails to scan begins with no lexeme at all. -/
theorem not_prefix_of_scanLexeme {reason : Reason} (failed : scanLexeme c rest = .error reason)
    (spells : Spells lexeme spelling) : ¬spelling <+: c :: rest := by
  rintro ⟨after, begins⟩
  -- A word scans whatever follows it, though perhaps as a longer one.
  by_cases isWord : lexeme.IsWord
  · obtain ⟨text, rfl⟩ := isWord
    cases spells with
    | word isStart goesOn =>
        rw [List.cons_append] at begins
        cases begins
        rw [scanLexeme_word isStart] at failed
        cases failed
  · rw [scanLexeme_of_spells spells begins.symm fun word => absurd word isWord] at failed
    cases failed

/-! ### Where a spelling begins -/

theorem not_isWordCharacter_of_isBlank (blank : isBlank c = true) :
    ¬isWordCharacter c = true := by
  delta isBlank at blank
  delta isWordCharacter Char.isAlphanum Char.isAlpha Char.isUpper Char.isLower Char.isDigit
  simp only [Bool.or_eq_true, Bool.and_eq_true, decide_eq_true_eq, beq_iff_eq, ge_iff_le,
    UInt32.le_iff_toNat_le, Char.toNat_val, ← Char.toNat_inj, Char.reduceToNat] at blank ⊢
  omega

theorem Spells.begins_iff (spells : Spells lexeme spelling) :
    ∃ first others, spelling = first :: others ∧ isBlank first = false ∧
      (isWordCharacter first = true ↔ lexeme.IsWord) := by
  cases spells with
  | word begins goesOn =>
      have isWord := isWordCharacter_of_isWordStart begins
      refine ⟨_, _, rfl, ?_, iff_of_true isWord ⟨_, rfl⟩⟩
      exact Bool.eq_false_iff.mpr fun blank => not_isWordCharacter_of_isBlank blank isWord
  | _ => exact ⟨_, _, rfl, by decide, iff_of_false (by decide) nofun⟩

/-! ### Spellings of given texts -/

/-- A literal with its quotes and backslashes escaped. -/
def escapeLiteral (text : List Char) : List Char :=
  text.flatMap fun c => if c = '"' ∨ c = '\\' then ['\\', c] else [c]

/-- A pattern with its slashes escaped. -/
def escapePattern (text : List Char) : List Char :=
  text.flatMap fun c => if c = '/' then ['\\', c] else [c]

/-- Each backslash that is not itself taken takes the character after it.
Whether none of them takes a slash or stands at the end. -/
def backslashesPaired : List Char → Bool
  | [] => true
  | '\\' :: c :: text => c != '/' && backslashesPaired text
  | ['\\'] => false
  | _ :: text => backslashesPaired text

example : backslashesPaired ['\\', '\\', '/'] ∧ ¬backslashesPaired ['\\', '/'] := by decide

/-- The text as a literal between quotes. -/
def quoted (text : String) : String :=
  String.ofList ('"' :: (escapeLiteral text.toList ++ ['"']))

/-- The text as a pattern between slashes. -/
def delimited (text : String) : String :=
  String.ofList ('/' :: (escapePattern text.toList ++ ['/']))

theorem toList_quoted (text : String) :
    (quoted text).toList = '"' :: (escapeLiteral text.toList ++ ['"']) :=
  String.toList_ofList

theorem toList_delimited (text : String) :
    (delimited text).toList = '/' :: (escapePattern text.toList ++ ['/']) :=
  String.toList_ofList

theorem literalBody_escapeLiteral (text : List Char) :
    LiteralBody (escapeLiteral text) text := by
  induction text with
  | nil => exact .nil
  | cons c text inductionHypothesis =>
      rw [escapeLiteral, List.flatMap_cons]
      split
      next => exact .escaped inductionHypothesis
      next plain =>
        rw [not_or] at plain
        exact .plain plain.1 plain.2 inductionHypothesis

/-- Every literal has a spelling. -/
theorem spells_quoted (text : String) : Spells (.literal text) (quoted text).toList := by
  have spells := Spells.literal (literalBody_escapeLiteral text.toList)
  rwa [String.ofList_toList, ← toList_quoted] at spells

theorem PatternBody.backslashesPaired (within : PatternBody body text) :
    backslashesPaired text = true := by
  induction within with
  | nil => rfl
  | plain noSlash noBackslash others inductionHypothesis =>
      rw [Expression.backslashesPaired]
      · exact inductionHypothesis
      · exact fun _ _ isBackslash => absurd isBackslash noBackslash
      · exact fun isBackslash => absurd isBackslash noBackslash
  | slash others inductionHypothesis => exact inductionHypothesis
  | escaped noSlash others inductionHypothesis =>
      rw [Expression.backslashesPaired, bne_iff_ne.mpr noSlash, inductionHypothesis, Bool.and_self]

theorem patternBody_escapePattern (paired : backslashesPaired text = true) :
    PatternBody (escapePattern text) text := by
  fun_induction backslashesPaired text with
  | case1 => exact .nil
  | case2 c text inductionHypothesis =>
      rw [Bool.and_eq_true, bne_iff_ne] at paired
      obtain ⟨noSlash, paired⟩ := paired
      have escaped : escapePattern ('\\' :: c :: text) = '\\' :: c :: escapePattern text := by
        simp [escapePattern, noSlash]
      rw [escaped]
      exact .escaped noSlash (inductionHypothesis paired)
  | case3 => cases paired
  | case4 c text noEscape notLast inductionHypothesis =>
      have noBackslash : c ≠ '\\' := by
        rintro rfl
        cases text with
        | nil => exact notLast rfl rfl
        | cons => exact noEscape _ _ rfl rfl
      rw [escapePattern, List.flatMap_cons]
      split
      next isSlash =>
        cases isSlash
        exact .slash (inductionHypothesis paired)
      next noSlash => exact .plain noSlash noBackslash (inductionHypothesis paired)

end Traceability.Expression
