import Traceability.Proofs.Expression.Spelling

/-!
Contract: expressions as lexemes laid out among blanks.

Lexemes may stand side by side, except that between two words there is a blank,
since they would be one word without it. That makes the tokens of a text its
own: no other ones have it as a layout.

Owns: layouts, where their tokens stand, and that dividing an expression into
tokens inverts them, up to the end or the first place where no lexeme begins.
Does not own: how single lexemes are spelled.
-/

namespace Traceability.Expression

open Traceability.Text

/-- A text from `offset` on that is made of blanks and of the spellings of
`tokens`. Two words are apart. -/
inductive Layout : Nat → List Char → List Token → Prop where
  | nil {offset : Nat} : Layout offset [] []
  | blank {offset : Nat} {c : Char} {text : List Char} {tokens : List Token}
      (blank : isBlank c = true) (others : Layout (offset + c.utf8Size) text tokens) :
      Layout offset (c :: text) tokens
  | token {offset : Nat} {lexeme : Lexeme} {spelling text : List Char} {tokens : List Token}
      (spells : Spells lexeme spelling)
      (apart : lexeme.IsWord → ∀ next ∈ tokens.head?, next.lexeme.IsWord →
        offset + byteSize spelling < next.offset)
      (others : Layout (offset + byteSize spelling) text tokens) :
      Layout offset (spelling ++ text) (⟨lexeme, offset⟩ :: tokens)

variable {offset : Nat} {text spelling before rest : List Char} {tokens : List Token}
  {lexeme : Lexeme} {c : Char}

theorem byteSize_append (first second : List Char) :
    byteSize (first ++ second) = byteSize first + byteSize second := by
  induction first with
  | nil => exact (Nat.zero_add _).symm
  | cons c first inductionHypothesis =>
      rw [List.cons_append, byteSize, byteSize, inductionHypothesis, Nat.add_assoc]

theorem byteSize_ofList (text : List Char) : byteSize text = (String.ofList text).utf8ByteSize := by
  induction text with
  | nil => rfl
  | cons c text inductionHypothesis =>
      rw [byteSize, inductionHypothesis, String.ofList_cons, String.utf8ByteSize_append,
        String.utf8ByteSize_singleton]

theorem byteSize_toList (source : String) : byteSize source.toList = source.utf8ByteSize := by
  rw [byteSize_ofList, String.ofList_toList]

theorem Spells.byteSize_pos (spells : Spells lexeme spelling) : 0 < byteSize spelling := by
  obtain ⟨first, others, rfl, _⟩ := spells.begins_iff
  exact Nat.add_pos_left first.utf8Size_pos _

/-- Every token stands before its spelling. -/
theorem Layout.stands (layout : Layout offset text tokens) {token : Token}
    (member : token ∈ tokens) :
    ∃ before spelling after, text = before ++ (spelling ++ after) ∧
      Spells token.lexeme spelling ∧ token.offset = offset + byteSize before := by
  induction layout with
  | nil => cases member
  | blank blank others inductionHypothesis =>
      obtain ⟨before, spelling, after, rfl, spells, place⟩ := inductionHypothesis member
      refine ⟨_ :: before, spelling, after, rfl, spells, ?_⟩
      rw [place, byteSize, Nat.add_assoc]
  | @token _ _ first _ _ spells apart others inductionHypothesis =>
      rcases List.mem_cons.mp member with rfl | among
      · exact ⟨[], first, _, rfl, spells, rfl⟩
      · obtain ⟨before, spelling, after, rfl, itSpells, place⟩ := inductionHypothesis among
        refine ⟨first ++ before, spelling, after, (List.append_assoc _ _ _).symm, itSpells, ?_⟩
        rw [place, byteSize_append, Nat.add_assoc]

theorem Layout.offset_le (layout : Layout offset text tokens) {token : Token}
    (member : token ∈ tokens) : offset ≤ token.offset := by
  obtain ⟨before, _, _, _, _, place⟩ := layout.stands member
  omega

/-- Tokens stand one after the other, and all of them before the end. -/
theorem Layout.increasing (layout : Layout offset text tokens) :
    (tokens.map Token.offset ++ [offset + byteSize text]).Pairwise (· < ·) := by
  induction layout with
  | nil => simp
  | blank blank others inductionHypothesis =>
      rw [byteSize, ← Nat.add_assoc]
      exact inductionHypothesis
  | token spells apart others inductionHypothesis =>
      rw [byteSize_append, ← Nat.add_assoc, List.map_cons, List.cons_append, List.pairwise_cons]
      refine ⟨?_, inductionHypothesis⟩
      have nonempty := spells.byteSize_pos
      intro place later
      rcases List.mem_append.mp later with isToken | isEnd
      · obtain ⟨token, member, rfl⟩ := List.mem_map.mp isToken
        exact Nat.lt_of_lt_of_le (Nat.lt_add_of_pos_right nonempty) (others.offset_le member)
      · rw [List.mem_singleton.mp isEnd]
        exact Nat.lt_add_right _ (Nat.lt_add_of_pos_right nonempty)

/-- A layout begins in a word exactly if its first token is one. -/
theorem Layout.beginsInWord_iff (layout : Layout offset text tokens) :
    BeginsInWord text ↔ ∃ first ∈ tokens.head?, first.lexeme.IsWord ∧ first.offset = offset := by
  cases layout with
  | nil => simp [BeginsInWord]
  | @blank _ c text _ blank others =>
      refine iff_of_false ?_ ?_
      · rintro ⟨_, ⟨⟩, isWord⟩
        exact not_isWordCharacter_of_isBlank blank isWord
      · rintro ⟨first, isFirst, _, place⟩
        have := others.offset_le (List.mem_of_head? isFirst)
        have := c.utf8Size_pos
        omega
  | token spells apart others =>
      obtain ⟨first, rest, rfl, _, isWord⟩ := spells.begins_iff
      simp [BeginsInWord, isWord]

theorem BeginsInWord.append (begins : BeginsInWord before) (beyond : List Char) :
    BeginsInWord (before ++ beyond) := by
  obtain ⟨c, isHead, isWord⟩ := begins
  refine ⟨c, ?_, isWord⟩
  rw [List.head?_append, Option.mem_def.mp isHead]
  rfl

/-- A spelling that ends where it does in a longer text ends there in any part
of it. -/
theorem Layout.token_of_ends (spells : Spells lexeme spelling) (beyond : List Char)
    (ends : lexeme.IsWord → ¬BeginsInWord (before ++ beyond))
    (others : Layout (offset + byteSize spelling) before tokens) :
    Layout offset (spelling ++ before) (⟨lexeme, offset⟩ :: tokens) := by
  refine .token spells ?_ others
  intro isWord next isNext nextIsWord
  have notBefore := others.offset_le (List.mem_of_head? isNext)
  refine Nat.lt_of_le_of_ne notBefore fun adjacent => ends isWord ?_
  exact .append (others.beginsInWord_iff.mpr ⟨next, isNext, nextIsWord, adjacent.symm⟩) beyond

/-! ### Dividing a text -/

theorem tokensOf_cons {total : Nat} {after : List Char} (notBlank : isBlank c = false)
    (scanned : scanLexeme c rest = .ok (lexeme, after))
    (others : tokensOf total after = .ok tokens) :
    tokensOf total (c :: rest) = .ok (⟨lexeme, total - byteSize (c :: rest)⟩ :: tokens) := by
  rw [tokensOf.eq_def]
  dsimp only
  rw [if_neg (by rw [notBlank]; decide)]
  split
  next failed =>
    rw [scanned] at failed
    cases failed
  next found =>
    rw [scanned] at found
    cases found
    rw [others]

theorem tokensOf_of_layout (layout : Layout offset text tokens) :
    tokensOf (offset + byteSize text) text =
      .ok (tokens ++ [⟨.endOfText, offset + byteSize text⟩]) := by
  induction layout with
  | nil => rw [tokensOf.eq_def, List.nil_append]
  | blank blank others inductionHypothesis =>
      rw [byteSize, ← Nat.add_assoc, tokensOf.eq_def]
      dsimp only
      rw [if_pos blank, inductionHypothesis]
  | @token offset lexeme spelling text tokens spells apart others inductionHypothesis =>
      have ends : lexeme.IsWord → ¬BeginsInWord text := by
        intro isWord begins
        obtain ⟨next, isNext, nextIsWord, place⟩ := others.beginsInWord_iff.mp begins
        exact Nat.lt_irrefl _ (place ▸ apart isWord next isNext nextIsWord)
      obtain ⟨first, rest, rfl, notBlank, _⟩ := spells.begins_iff
      have scanned : scanLexeme first (rest ++ text) = .ok (lexeme, text) :=
        scanLexeme_of_spells spells rfl ends
      have place : offset + byteSize (first :: rest) + byteSize text -
          byteSize (first :: (rest ++ text)) = offset := by
        rw [← List.cons_append, byteSize_append, Nat.add_assoc, Nat.add_sub_cancel]
      rw [byteSize_append, ← Nat.add_assoc, List.cons_append,
        tokensOf_cons notBlank scanned inductionHypothesis, place, List.cons_append]

/-- The tokens of a layout, and the end after them. -/
def Divided (offset : Nat) (text : List Char) (tokens : List Token) : Prop :=
  ∃ body, tokens = body ++ [⟨.endOfText, offset + byteSize text⟩] ∧ Layout offset text body

/-- What the tokens of a text from `offset` on say of it, or the place of the
first failure. -/
def Divides (offset : Nat) (text : List Char) : Except (Nat × Reason) (List Token) → Prop
  | .ok tokens => Divided offset text tokens
  | .error (place, reason) =>
      ∃ before c rest, text = before ++ c :: rest ∧ place = offset + byteSize before ∧
        (∃ tokens, Layout offset before tokens) ∧ isBlank c = false ∧
        scanLexeme c rest = .error reason

theorem divides_tokensOf (total : Nat) (ends : total = offset + byteSize text) :
    Divides offset text (tokensOf total text) := by
  fun_induction tokensOf total text generalizing offset with
  | case1 => exact ⟨[], by rw [ends]; rfl, .nil⟩
  | case2 c rest blank inductionHypothesis =>
      rw [byteSize, ← Nat.add_assoc] at ends
      have divided := inductionHypothesis ends
      cases result : tokensOf total rest with
      | ok tokens =>
          rw [result] at divided
          obtain ⟨body, split, layout⟩ := divided
          refine ⟨body, ?_, .blank blank layout⟩
          rw [split, byteSize, Nat.add_assoc]
      | error failure =>
          rw [result] at divided
          obtain ⟨before, first, beyond, rfl, place, ⟨tokens, layout⟩, failed⟩ := divided
          refine ⟨c :: before, first, beyond, rfl, ?_, ⟨tokens, .blank blank layout⟩, failed⟩
          rw [place, byteSize, Nat.add_assoc]
  | case3 c rest notBlank place reason =>
      rename_i failed
      refine ⟨[], c, rest, rfl, ?_, ⟨[], .nil⟩, Bool.eq_false_iff.mpr notBlank, failed⟩
      exact Nat.sub_eq_of_eq_add ends
  | case4 c rest notBlank lexeme after scanned failure failed inductionHypothesis =>
      obtain ⟨spelling, spells, split, lexemeEnds⟩ := spells_of_scanLexeme scanned
      rw [split, byteSize_append, ← Nat.add_assoc] at ends
      have divided := inductionHypothesis ends
      rw [failed] at divided
      obtain ⟨before, first, beyond, rfl, place, ⟨tokens, layout⟩, stopped⟩ := divided
      -- A word ends before the failure also where the text is cut off there.
      have cutOff := Layout.token_of_ends spells _ lexemeEnds layout
      refine ⟨spelling ++ before, first, beyond, ?_, ?_, ⟨_, cutOff⟩, stopped⟩
      · rw [split, List.append_assoc]
      · rw [place, byteSize_append, Nat.add_assoc]
  | case5 c rest notBlank place lexeme after scanned tokens divided =>
      rename_i inductionHypothesis
      obtain ⟨spelling, spells, split, lexemeEnds⟩ := spells_of_scanLexeme scanned
      obtain rfl : place = offset := Nat.sub_eq_of_eq_add ends
      rw [split, byteSize_append, ← Nat.add_assoc] at ends
      have others := inductionHypothesis ends
      rw [divided] at others
      obtain ⟨body, whole, layout⟩ := others
      rw [split]
      refine ⟨⟨lexeme, place⟩ :: body, ?_,
        .token_of_ends spells [] (by rwa [List.append_nil]) layout⟩
      rw [whole, byteSize_append, Nat.add_assoc, List.cons_append]

/-! ### Dividing an expression -/

theorem tokenize_eq_ok_iff_divided {source : String} :
    tokenize source = .ok tokens ↔ Divided 0 source.toList tokens := by
  have divides := divides_tokensOf (byteSize source.toList) (Nat.zero_add _).symm
  unfold tokenize
  constructor
  · intro found
    split at found
    next result =>
      cases found
      rwa [result] at divides
    next => cases found
  · rintro ⟨body, rfl, layout⟩
    have result := tokensOf_of_layout layout
    rw [Nat.zero_add] at result ⊢
    rw [result]

theorem tokenize_eq_ok_iff {source : String} :
    tokenize source = .ok tokens ↔
      ∃ body, tokens = body ++ [⟨.endOfText, source.utf8ByteSize⟩] ∧
        Layout 0 source.toList body := by
  rw [tokenize_eq_ok_iff_divided, Divided, Nat.zero_add, byteSize_toList]

theorem tokenize_of_layout {source : String} (layout : Layout 0 source.toList tokens) :
    tokenize source = .ok (tokens ++ [⟨.endOfText, source.utf8ByteSize⟩]) :=
  tokenize_eq_ok_iff.mpr ⟨tokens, rfl, layout⟩

theorem tokenize_increasing {source : String} (found : tokenize source = .ok tokens) :
    (tokens.map Token.offset).Pairwise (· < ·) := by
  obtain ⟨body, rfl, layout⟩ := tokenize_eq_ok_iff.mp found
  have increasing := layout.increasing
  rw [Nat.zero_add, byteSize_toList] at increasing
  rwa [List.map_append]

theorem exists_spelling_of_layout {source : String} (layout : Layout 0 source.toList tokens)
    {token : Token} (member : token ∈ tokens) :
    ∃ before spelling after : String, source = before ++ spelling ++ after ∧
      Spells token.lexeme spelling.toList ∧ token.offset = before.utf8ByteSize := by
  obtain ⟨before, spelling, after, split, spells, place⟩ := layout.stands member
  refine ⟨String.ofList before, String.ofList spelling, String.ofList after, ?_, ?_, ?_⟩
  · rw [← String.ofList_append, ← String.ofList_append, List.append_assoc, ← split,
      String.ofList_toList]
  · rwa [String.toList_ofList]
  · rw [place, Nat.zero_add, byteSize_ofList]

theorem tokenize_error {source : String} {error : SyntaxError}
    (failed : tokenize source = .error error) :
    ∃ before after : String, source = before ++ after ∧ error.offset = before.utf8ByteSize ∧
      (∃ tokens, tokenize before = .ok tokens) ∧ (∃ c ∈ after.toList.head?, isBlank c = false) ∧
      ∀ lexeme spelling, Spells lexeme spelling → ¬spelling <+: after.toList := by
  have divided := divides_tokensOf (byteSize source.toList) (Nat.zero_add _).symm
  unfold tokenize at failed
  split at failed
  next => cases failed
  next offset reason result =>
    cases failed
    rw [result] at divided
    obtain ⟨before, c, rest, split, place, ⟨tokens, layout⟩, notBlank, stopped⟩ := divided
    have ofBefore : Layout 0 (String.ofList before).toList tokens := by
      rwa [String.toList_ofList]
    refine ⟨String.ofList before, String.ofList (c :: rest), ?_, ?_,
      ⟨_, tokenize_of_layout ofBefore⟩, ?_, ?_⟩
    · rw [← String.ofList_append, ← split, String.ofList_toList]
    · rw [place, Nat.zero_add, byteSize_ofList]
    · exact ⟨c, by rw [String.toList_ofList]; rfl, notBlank⟩
    · intro lexeme spelling spells
      rw [String.toList_ofList]
      exact not_prefix_of_scanLexeme stopped spells

theorem tokenize_of_spells {source : String} (spells : Spells lexeme source.toList) :
    tokenize source = .ok [⟨lexeme, 0⟩, ⟨.endOfText, source.utf8ByteSize⟩] := by
  have layout : Layout 0 (source.toList ++ []) [⟨lexeme, 0⟩] := .token spells (by simp) .nil
  rw [List.append_nil] at layout
  exact tokenize_of_layout layout

theorem tokenize_quoted (text : String) :
    tokenize (quoted text) =
      .ok [⟨.literal text, 0⟩, ⟨.endOfText, (quoted text).utf8ByteSize⟩] :=
  tokenize_of_spells (spells_quoted text)

theorem tokenize_delimited_iff (text : String) :
    tokenize (delimited text) =
        .ok [⟨.pattern text, 0⟩, ⟨.endOfText, (delimited text).utf8ByteSize⟩] ↔
      backslashesPaired text.toList = true := by
  constructor
  · intro found
    obtain ⟨body, split, layout⟩ := tokenize_eq_ok_iff.mp found
    obtain rfl : [⟨.pattern text, 0⟩] = body := (List.append_left_inj _).mp split
    obtain ⟨_, spelling, _, _, spells, _⟩ := layout.stands (List.mem_singleton.mpr rfl)
    cases spells with
    | pattern within =>
        rw [String.toList_ofList]
        exact within.backslashesPaired
  · intro paired
    apply tokenize_of_spells
    have spells := Spells.pattern (patternBody_escapePattern paired)
    rwa [String.ofList_toList, ← toList_delimited] at spells

/-- An expression divides into tokens exactly if it is made of their spellings
and of blanks, words being apart, and then the end is the last token, at the
number of bytes. The other tokens stand at the bytes where their spellings begin.
A failure shows where no lexeme begins, after an expression that divides. Every
literal can be read back from its quotation, and a pattern if its backslashes
leave its slashes alone. -/
theorem tokenize_exact (source : String) :
    (∀ tokens, tokenize source = .ok tokens ↔
      ∃ body, tokens = body ++ [⟨.endOfText, source.utf8ByteSize⟩] ∧
        Layout 0 source.toList body) ∧
    (∀ tokens, tokenize source = .ok tokens →
      tokens.getLast? = some ⟨.endOfText, source.utf8ByteSize⟩ ∧
      (tokens.map Token.offset).Pairwise (· < ·) ∧
      ∀ token ∈ tokens.dropLast, ∃ before spelling after : String,
        source = before ++ spelling ++ after ∧ Spells token.lexeme spelling.toList ∧
        token.offset = before.utf8ByteSize) ∧
    (∀ error, tokenize source = .error error → ∃ before after : String,
      source = before ++ after ∧ error.offset = before.utf8ByteSize ∧
      (∃ tokens, tokenize before = .ok tokens) ∧ (∃ c ∈ after.toList.head?, isBlank c = false) ∧
      ∀ lexeme spelling, Spells lexeme spelling → ¬spelling <+: after.toList) ∧
    tokenize (quoted source) =
      .ok [⟨.literal source, 0⟩, ⟨.endOfText, (quoted source).utf8ByteSize⟩] ∧
    (tokenize (delimited source) =
        .ok [⟨.pattern source, 0⟩, ⟨.endOfText, (delimited source).utf8ByteSize⟩] ↔
      backslashesPaired source.toList = true) := by
  refine ⟨fun _ => tokenize_eq_ok_iff, ?_, fun _ => tokenize_error, tokenize_quoted source,
    tokenize_delimited_iff source⟩
  intro tokens found
  refine ⟨?_, tokenize_increasing found, ?_⟩
  · obtain ⟨body, rfl, _⟩ := tokenize_eq_ok_iff.mp found
    exact List.getLast?_concat
  · obtain ⟨body, rfl, layout⟩ := tokenize_eq_ok_iff.mp found
    rw [List.dropLast_concat]
    exact fun token => exists_spelling_of_layout layout

end Traceability.Expression
