import Traceability.Proofs.Expression.Grammar

/-!
Contract: the reader of filter expressions accepts exactly what the grammar
derives.

Every reader either finds a settled derivation at the front of the tokens, or
stops at a place that the grammar refuses. Nothing more is needed: a reader that
stopped on the lexemes of a derivation would refuse them, and one that found
another derivation would not have settled it.

Owns: what each reader finds, the outcome of reading all tokens, and that no
lexemes have two derivations.
Does not own: the division of a text into tokens.
-/

namespace Traceability.Expression

/-- The lexemes of tokens. -/
def lexemes (tokens : List Token) : List Lexeme := tokens.map Token.lexeme

@[simp] theorem lexemes_nil : lexemes [] = [] := rfl

@[simp] theorem lexemes_cons (token : Token) (tokens : List Token) :
    lexemes (token :: tokens) = token.lexeme :: lexemes tokens := rfl

@[simp] theorem lexemes_append (front back : List Token) :
    lexemes (front ++ back) = lexemes front ++ lexemes back := List.map_append

variable {token : Token} {tokens rest after : List Token} {connective : Connective}

theorem exists_token_of_head? {lexeme : Lexeme}
    (head : (lexemes tokens).head? = some lexeme) :
    ∃ offset rest, tokens = ⟨lexeme, offset⟩ :: rest := by
  cases tokens with
  | nil => cases head
  | cons token rest =>
      obtain ⟨_, offset⟩ := token
      cases head
      exact ⟨offset, rest, rfl⟩

theorem connective?_eq_some_iff :
    connective? tokens = some connective ↔ (lexemes tokens).head? = some connective.lexeme := by
  unfold connective?
  split
  case h_1 text _ _ =>
    cases connective <;>
      simp [Connective.lexeme, Connective.keyword] <;> grind
  case h_2 noWord =>
    cases tokens with
    | nil => simp
    | cons token rest =>
        obtain ⟨lexeme, offset⟩ := token
        cases lexeme with
        | word text => exact absurd rfl (noWord text offset rest)
        | _ => simp [Connective.lexeme]

theorem isNegation_iff :
    isNegation tokens ↔ (lexemes tokens).head? = some (.word "not") := by
  unfold isNegation
  split
  case h_1 => simp
  case h_2 noWord =>
    cases tokens with
    | nil => simp
    | cons token rest =>
        obtain ⟨lexeme, offset⟩ := token
        cases lexeme with
        | word text => exact absurd rfl (noWord text offset rest)
        | _ => simp

variable [PatternEngine]

/-- At the front of the tokens there is a settled derivation of `value`, and
`rest` is what follows it. -/
def Finds (nonterminal : Nonterminal) (tokens : List Token) (value : nonterminal.Value)
    (rest : List Token) : Prop :=
  ∃ (consumed : List Token) (derivation : Derivation nonterminal),
    tokens = consumed ++ rest ∧ lexemes consumed = derivation.lexemes ∧
      value = derivation.value ∧ Settled derivation (lexemes rest)

/-- The tokens are refused where `rest` begins. -/
def Stops (nonterminal : Nonterminal) (tokens rest : List Token) : Prop :=
  ∃ consumed, tokens = consumed ++ rest ∧ Refused nonterminal (lexemes consumed) (lexemes rest)

/-- What a reader of a nonterminal says of tokens is so. -/
def Reads (nonterminal : Nonterminal) (tokens : List Token) {limit : Nat} :
    Except Failure (Parsed nonterminal.Value limit) → Prop
  | .ok parsed => Finds nonterminal tokens parsed.value parsed.rest
  | .error failure => Stops nonterminal tokens failure.rest

section Inversion

variable {nonterminal : Nonterminal} {tokens : List Token} {limit : Nat}
  {result : Except Failure (Parsed nonterminal.Value limit)}

theorem Reads.finds (reads : Reads nonterminal tokens result) {value : nonterminal.Value}
    {rest : List Token} {shorter : rest.length < limit}
    (found : result = .ok ⟨value, rest, shorter⟩) : Finds nonterminal tokens value rest := by
  rw [found] at reads
  exact reads

theorem Reads.stops (reads : Reads nonterminal tokens result) {failure : Failure}
    (failed : result = .error failure) : Stops nonterminal tokens failure.rest := by
  rw [failed] at reads
  exact reads

end Inversion

/-! ### One token -/

theorem operandOf_ok {operand : Operand} (found : operandOf token rest = .ok operand) :
    token.lexeme = operand.lexeme := by
  unfold operandOf at found
  split at found
  next text isLiteral =>
    cases found
    exact isLiteral
  next text isPattern =>
    split at found
    next regex valid =>
      cases found
      rw [isPattern, Operand.lexeme, PatternEngine.text_of_compile? valid]
    next => contradiction
  next => contradiction

theorem operandOf_error {failure : Failure} (failed : operandOf token rest = .error failure) :
    failure.rest = token :: rest ∧ ∀ operand : Operand, token.lexeme ≠ operand.lexeme := by
  unfold operandOf at failed
  split at failed
  next => contradiction
  next text isPattern =>
    split at failed
    next => contradiction
    next invalid =>
      cases failed
      refine ⟨rfl, ?_⟩
      rintro (literal | regex) same
      · rw [isPattern] at same
        cases same
      · rw [isPattern] at same
        obtain rfl : text = PatternEngine.text regex := Lexeme.pattern.inj same
        rw [PatternEngine.compile?_text regex] at invalid
        contradiction
  next noLiteral noPattern =>
    cases failed
    refine ⟨rfl, ?_⟩
    rintro (literal | regex) same
    · exact noLiteral literal same
    · exact noPattern (PatternEngine.text regex) same

/-! ### The productions -/

theorem Finds.comparison {field signToken : Token} {negated : Bool}
    {operands : NonEmptyList Operand} (isField : field.lexeme = .word "ids")
    (isSign : signToken.lexeme = sign negated) (finds : Finds .operands tokens operands rest) :
    Finds .comparison (field :: signToken :: tokens) (.comparison negated operands) rest := by
  obtain ⟨consumed, derivation, split, same, rfl, settled⟩ := finds
  refine ⟨field :: signToken :: consumed, .comparison negated derivation,
    congrArg (field :: signToken :: ·) split, ?_, rfl, settled.comparison⟩
  rw [lexemes_cons, isField, lexemes_cons, isSign, same]
  rfl

theorem Stops.comparison {field signToken : Token} {negated : Bool}
    (isField : field.lexeme = .word "ids") (isSign : signToken.lexeme = sign negated)
    (stops : Stops .operands tokens rest) :
    Stops .comparison (field :: signToken :: tokens) rest := by
  obtain ⟨consumed, split, refused⟩ := stops
  refine ⟨field :: signToken :: consumed, congrArg (field :: signToken :: ·) split, ?_⟩
  rw [lexemes_cons, isField, lexemes_cons, isSign]
  exact refused.comparison

theorem Finds.compared {condition : Condition} (finds : Finds .comparison tokens condition rest) :
    Finds .primary tokens condition rest := by
  obtain ⟨consumed, derivation, split, same, value, settled⟩ := finds
  exact ⟨consumed, .compared derivation, split, same, value, settled.compared⟩

theorem Stops.compared (isField : token.lexeme = .word "ids")
    (stops : Stops .comparison (token :: tokens) rest) :
    Stops .primary (token :: tokens) rest := by
  obtain ⟨consumed, split, refused⟩ := stops
  refine ⟨consumed, split, refused.compared ?_⟩
  rw [← lexemes_append, ← split, lexemes_cons, isField]
  rfl

theorem Finds.grouped {condition : Condition} {offset : Nat}
    (isOpen : token.lexeme = .openParen)
    (finds : Finds .expression tokens condition (⟨.closeParen, offset⟩ :: rest)) :
    Finds .primary (token :: tokens) condition rest := by
  obtain ⟨consumed, derivation, split, same, value, settled⟩ := finds
  refine ⟨token :: (consumed ++ [⟨.closeParen, offset⟩]), .grouped derivation, ?_, ?_, value,
    settled.grouped⟩
  · rw [split, List.cons_append, List.append_assoc]
    rfl
  · rw [lexemes_cons, isOpen, lexemes_append, same]
    rfl

theorem Stops.grouped (isOpen : token.lexeme = .openParen)
    (stops : Stops .expression tokens rest) : Stops .primary (token :: tokens) rest := by
  obtain ⟨consumed, split, refused⟩ := stops
  refine ⟨token :: consumed, congrArg (token :: ·) split, ?_⟩
  rw [lexemes_cons, isOpen]
  exact refused.grouped

theorem Finds.unclosed {condition : Condition} (isOpen : token.lexeme = .openParen)
    (finds : Finds .expression tokens condition rest)
    (unclosed : (lexemes rest).head? ≠ some .closeParen) :
    Stops .primary (token :: tokens) rest := by
  obtain ⟨consumed, derivation, split, same, _, settled⟩ := finds
  refine ⟨token :: consumed, congrArg (token :: ·) split, ?_⟩
  rw [lexemes_cons, isOpen, same]
  exact .unclosed settled unclosed

theorem Finds.negation {condition : Condition} (isNot : token.lexeme = .word "not")
    (finds : Finds .unary tokens condition rest) :
    Finds .unary (token :: tokens) (.not condition) rest := by
  obtain ⟨consumed, derivation, split, same, rfl, settled⟩ := finds
  refine ⟨token :: consumed, .negation derivation, congrArg (token :: ·) split, ?_, rfl,
    settled.negation⟩
  rw [lexemes_cons, isNot, same]
  rfl

theorem Stops.negation (isNot : token.lexeme = .word "not") (stops : Stops .unary tokens rest) :
    Stops .unary (token :: tokens) rest := by
  obtain ⟨consumed, split, refused⟩ := stops
  refine ⟨token :: consumed, congrArg (token :: ·) split, ?_⟩
  rw [lexemes_cons, isNot]
  exact refused.negation

theorem Finds.plain {condition : Condition} (finds : Finds .primary tokens condition rest) :
    Finds .unary tokens condition rest := by
  obtain ⟨consumed, derivation, split, same, value, settled⟩ := finds
  exact ⟨consumed, .plain derivation, split, same, value, settled.plain⟩

theorem Stops.plain (noNegation : (lexemes tokens).head? ≠ some (.word "not"))
    (stops : Stops .primary tokens rest) : Stops .unary tokens rest := by
  obtain ⟨consumed, split, refused⟩ := stops
  refine ⟨consumed, split, refused.plain ?_⟩
  rwa [← lexemes_append, ← split]

theorem Finds.done (noMore : (lexemes tokens).head? ≠ some connective.lexeme) :
    Finds (.chain connective) tokens [] tokens :=
  ⟨[], .done, rfl, rfl, rfl, .done noMore⟩

theorem Finds.more {member : Condition} {others : List Condition}
    (isConnective : token.lexeme = connective.lexeme) (first : Finds .unary tokens member after)
    (chain : Finds (.chain connective) after others rest) :
    Finds (.chain connective) (token :: tokens) (member :: others) rest := by
  obtain ⟨consumed, derivation, split, same, rfl, settled⟩ := first
  obtain ⟨members, further, chainSplit, chainSame, rfl, chainSettled⟩ := chain
  rw [chainSplit, lexemes_append, chainSame] at settled
  refine ⟨token :: (consumed ++ members), .more derivation further, ?_, ?_, rfl,
    settled.more chainSettled⟩
  · rw [split, chainSplit, List.cons_append, List.append_assoc]
  · rw [lexemes_cons, isConnective, lexemes_append, same, chainSame]
    rfl

theorem Stops.member (isConnective : token.lexeme = connective.lexeme)
    (stops : Stops .unary tokens rest) : Stops (.chain connective) (token :: tokens) rest := by
  obtain ⟨consumed, split, refused⟩ := stops
  refine ⟨token :: consumed, congrArg (token :: ·) split, ?_⟩
  rw [lexemes_cons, isConnective]
  exact refused.member

theorem Stops.others {member : Condition} (isConnective : token.lexeme = connective.lexeme)
    (first : Finds .unary tokens member after) (stops : Stops (.chain connective) after rest) :
    Stops (.chain connective) (token :: tokens) rest := by
  obtain ⟨consumed, derivation, split, same, _, settled⟩ := first
  obtain ⟨members, chainSplit, refused⟩ := stops
  rw [chainSplit, lexemes_append] at settled
  refine ⟨token :: (consumed ++ members), ?_, ?_⟩
  · rw [split, chainSplit, List.cons_append, List.append_assoc]
  · rw [lexemes_cons, isConnective, lexemes_append, same]
    exact refused.others settled

theorem Finds.alone {condition : Condition} (finds : Finds .unary tokens condition rest)
    (noConnective : ¬BeginsWithConnective (lexemes rest)) :
    Finds .expression tokens condition rest := by
  obtain ⟨consumed, derivation, split, same, value, settled⟩ := finds
  exact ⟨consumed, .alone derivation, split, same, value, settled.alone noConnective⟩

theorem Stops.first (stops : Stops .unary tokens rest) : Stops .expression tokens rest := by
  obtain ⟨consumed, split, refused⟩ := stops
  exact ⟨consumed, split, refused.first⟩

/-- Where a connective follows the first member, there is a second one. -/
theorem Finds.chained {member : Condition} {others : List Condition}
    (first : Finds .unary tokens member after)
    (goesOn : (lexemes after).head? = some connective.lexeme)
    (chain : Finds (.chain connective) after others rest) :
    Finds .expression tokens (connective.combine (member :: others)) rest := by
  obtain ⟨consumed, derivation, split, same, rfl, settled⟩ := first
  obtain ⟨members, chainDerivation, chainSplit, chainSame, rfl, chainSettled⟩ := chain
  rw [chainSplit, lexemes_append, chainSame] at settled goesOn
  cases chainDerivation with
  | done => exact absurd goesOn chainSettled.head?_ne_of_done
  | more second further =>
      refine ⟨consumed ++ members, .chained connective derivation second further, ?_, ?_, rfl,
        settled.chained chainSettled⟩
      · rw [split, chainSplit, List.append_assoc]
      · rw [lexemes_append, same, chainSame]
        rfl

theorem Stops.chain {member : Condition} (first : Finds .unary tokens member after)
    (goesOn : (lexemes after).head? = some connective.lexeme)
    (stops : Stops (.chain connective) after rest) : Stops .expression tokens rest := by
  obtain ⟨consumed, derivation, split, same, _, settled⟩ := first
  obtain ⟨members, chainSplit, refused⟩ := stops
  rw [chainSplit, lexemes_append] at settled goesOn
  refine ⟨consumed ++ members, ?_, ?_⟩
  · rw [split, chainSplit, List.append_assoc]
  · rw [lexemes_append, same]
    exact refused.chain settled goesOn

/-! ### The readers -/

theorem reads_parseOperands (tokens : List Token) :
    Reads .operands tokens (parseOperands tokens) := by
  fun_induction parseOperands tokens with
  | case1 =>
      exact ⟨[], rfl, .noOperand (by simp [Failure.unexpected])⟩
  | case2 token rest failure failed =>
      obtain ⟨blamed, noOperand⟩ := operandOf_error failed
      refine ⟨[], blamed.symm, .noOperand ?_⟩
      intro operand same
      rw [blamed] at same
      exact noOperand operand (Option.some.inj same)
  | case3 token operand offset more failure failed found inductionHypothesis =>
      obtain ⟨consumed, split, refused⟩ := inductionHypothesis.stops failed
      refine ⟨token :: ⟨.comma, offset⟩ :: consumed, congrArg (token :: _ :: ·) split, ?_⟩
      rw [lexemes_cons, operandOf_ok found]
      exact refused.another
  | case4 token operand offset more others after shorter parsed found inductionHypothesis =>
      obtain ⟨consumed, derivation, split, same, rfl, settled⟩ := inductionHypothesis.finds parsed
      refine ⟨token :: ⟨.comma, offset⟩ :: consumed, .another operand derivation,
        congrArg (token :: _ :: ·) split, ?_, rfl, settled.another⟩
      rw [lexemes_cons, operandOf_ok found, lexemes_cons, same]
      rfl
  | case5 token operand after noComma found =>
      refine ⟨[token], .one operand, rfl, ?_, rfl, .one ?_⟩
      · rw [lexemes_cons, operandOf_ok found]
        rfl
      · intro comma
        obtain ⟨offset, more, goesOn⟩ := exists_token_of_head? comma
        exact noComma offset more goesOn

/-- The field of a comparison is taken off before the rest is read. -/
theorem reads_parseComparison (isField : token.lexeme = .word "ids") (tokens : List Token) :
    Reads .comparison (token :: tokens) (parseComparison tokens) := by
  have equalSign : Lexeme.equal = sign false := rfl
  have unequalSign : Lexeme.unequal = sign true := rfl
  unfold parseComparison
  split
  next offset rest =>
    have operands := reads_parseOperands rest
    split
    next failed => exact (operands.stops failed).comparison isField equalSign
    next found => exact (operands.finds found).comparison isField equalSign
  next offset rest =>
    have operands := reads_parseOperands rest
    split
    next failed => exact (operands.stops failed).comparison isField unequalSign
    next found => exact (operands.finds found).comparison isField unequalSign
  next noEqual noUnequal =>
    refine ⟨[token], rfl, ?_⟩
    rw [lexemes_cons, isField]
    apply Refused.noSign
    rintro (_ | _) isSign <;> obtain ⟨offset, more, goesOn⟩ := exists_token_of_head? isSign
    · exact noEqual offset more goesOn
    · exact noUnequal offset more goesOn

/-- Without lexemes there is no condition. -/
theorem refused_nil : Refused .unary [] [] :=
  (Refused.noPrimary (by simp) (by simp)).plain (by simp)

mutual

theorem reads_parseExpression (tokens : List Token) :
    Reads .expression tokens (parseExpression tokens) := by
  have unary := reads_parseUnary tokens
  rw [parseExpression]
  split
  next failed => exact (unary.stops failed).first
  next first rest shorter found =>
    split
    next noConnective =>
      refine (unary.finds found).alone ?_
      rintro ⟨connective, goesOn⟩
      rw [connective?_eq_some_iff.mpr goesOn] at noConnective
      contradiction
    next connective goesOn =>
      rw [connective?_eq_some_iff] at goesOn
      have chain := reads_parseChain connective rest
      split
      next failed => exact .chain (unary.finds found) goesOn (chain.stops failed)
      next chainFound => exact (unary.finds found).chained goesOn (chain.finds chainFound)
termination_by (tokens.length, 2)

theorem reads_parseChain (connective : Connective) (tokens : List Token) :
    Reads (.chain connective) tokens (parseChain connective tokens) := by
  cases tokens with
  | nil =>
      rw [parseChain]
      exact Finds.done (by simp)
  | cons token rest =>
      rw [parseChain]
      split
      next goesOn =>
        have isConnective : token.lexeme = connective.lexeme :=
          Option.some.inj (connective?_eq_some_iff.mp goesOn)
        have unary := reads_parseUnary rest
        split
        next failed => exact (unary.stops failed).member isConnective
        next member after shorter found =>
          have chain := reads_parseChain connective after
          split
          next failed => exact .others isConnective (unary.finds found) (chain.stops failed)
          next chainFound =>
            exact .more isConnective (unary.finds found) (chain.finds chainFound)
      next noMore =>
        rw [connective?_eq_some_iff] at noMore
        split
        next mixed => exact ⟨[], rfl, .mixed (connective?_eq_some_iff.mp mixed)⟩
        next => exact Finds.done noMore
termination_by (tokens.length, 0)

theorem reads_parseUnary (tokens : List Token) :
    Reads .unary tokens (parseUnary tokens) := by
  cases tokens with
  | nil =>
      rw [parseUnary]
      exact ⟨[], rfl, refused_nil⟩
  | cons token rest =>
      rw [parseUnary]
      split
      next negation =>
        have isNot : token.lexeme = .word "not" := Option.some.inj (isNegation_iff.mp negation)
        have unary := reads_parseUnary rest
        split
        next failed => exact (unary.stops failed).negation isNot
        next found => exact (unary.finds found).negation isNot
      next noNegation =>
        rw [isNegation_iff] at noNegation
        have primary := reads_parsePrimary token rest
        cases result : parsePrimary token rest with
        | error failure => exact (primary.stops result).plain noNegation
        | ok parsed => exact (primary.finds result).plain
termination_by (tokens.length, 1)

theorem reads_parsePrimary (token : Token) (rest : List Token) :
    Reads .primary (token :: rest) (parsePrimary token rest) := by
  rw [parsePrimary]
  split
  next isOpen =>
    have expression := reads_parseExpression rest
    split
    next failed => exact (expression.stops failed).grouped isOpen
    next inner after shorter found =>
      split
      next offset last => exact (expression.finds found).grouped isOpen
      next noClose =>
        refine (expression.finds found).unclosed isOpen ?_
        intro closed
        have closes : (lexemes after).head? = some .closeParen := closed
        obtain ⟨offset, last, rfl⟩ := exists_token_of_head? closes
        exact noClose offset last shorter rfl HEq.rfl
  next text isWord =>
    split
    next isField =>
      have isIds : token.lexeme = .word "ids" := isWord.trans (congrArg Lexeme.word isField)
      have comparison := reads_parseComparison isIds rest
      split
      next failed => exact (comparison.stops failed).compared isIds
      next found => exact (comparison.finds found).compared
    next noField =>
      have refused : Refused .primary [] (lexemes (token :: rest)) :=
        .noPrimary (by simp [isWord]) (by simpa [isWord] using noField)
      split
      next => exact ⟨[], rfl, refused⟩
      next => exact ⟨[], rfl, refused⟩
  next noOpen noWord =>
    refine ⟨[], rfl, .noPrimary ?_ ?_⟩
    · exact fun isOpen => noOpen (Option.some.inj isOpen)
    · exact fun isWord => noWord _ (Option.some.inj isWord)
termination_by (rest.length + 1, 0)

end

/-! ### All tokens -/

/-- The tokens before `rest` can be completed to an expression; with the first
token of `rest`, or as they are if there is none, they cannot. -/
structure Blames (consumed rest : List Lexeme) : Prop where
  completable : ∃ completion, Accepted (consumed ++ completion)
  hopeless : ∀ tail : List Lexeme, tail.head? = rest.head? → ¬Accepted (consumed ++ tail)

theorem Refused.blames {consumed rest : List Lexeme}
    (refused : Refused .expression consumed rest) : Blames consumed rest where
  completable := by
    obtain ⟨derivation, completion, begins⟩ := refused.viable
    exact ⟨completion, derivation, begins⟩
  hopeless := by
    rintro tail sameHead ⟨derivation, same⟩
    apply refused.hopeless derivation [] tail (endsBefore_nil _) sameHead
    rw [List.append_nil, same]

/-- After an expression there is nothing more. -/
theorem Settled.blames {derivation : Derivation .expression} {rest : List Lexeme}
    (settled : Settled derivation rest) (notAtEnd : rest ≠ []) :
    Blames derivation.lexemes rest where
  completable := ⟨[], derivation, (List.append_nil _).symm⟩
  hopeless := by
    rintro tail sameHead ⟨other, same⟩
    obtain rfl : other = derivation :=
      settled other [] tail (endsBefore_nil _) sameHead (by rw [List.append_nil, same])
    have nothing : tail = [] := List.self_eq_append_right.mp same
    rw [nothing] at sameHead
    exact notAtEnd (List.head?_eq_none_iff.mp sameHead.symm)

theorem parseTokens_ok {condition : Condition} (parsed : parseTokens tokens = .ok condition) :
    ∃ derivation : Derivation .expression, derivation.lexemes = lexemes tokens ∧
      derivation.value = condition ∧ Settled derivation [] := by
  unfold parseTokens at parsed
  split at parsed
  · contradiction
  · split at parsed
    next => contradiction
    next found =>
      cases parsed
      obtain ⟨consumed, derivation, split, same, value, settled⟩ :=
        (reads_parseExpression tokens).finds found
      rw [List.append_nil] at split
      exact ⟨derivation, by rw [split, same], value.symm, settled⟩
    next => contradiction

theorem parseTokens_error {failure : Failure} (failed : parseTokens tokens = .error failure) :
    ∃ consumed, tokens = consumed ++ failure.rest ∧
      Blames (lexemes consumed) (lexemes failure.rest) := by
  unfold parseTokens at failed
  split at failed
  next =>
    cases failed
    exact ⟨[], rfl, refused_nil.first.blames⟩
  next =>
    split at failed
    next stopped =>
      cases failed
      obtain ⟨consumed, split, refused⟩ := (reads_parseExpression tokens).stops stopped
      exact ⟨consumed, split, refused.blames⟩
    next => contradiction
    next rest _ notAtEnd found =>
      cases failed
      obtain ⟨consumed, derivation, split, same, _, settled⟩ :=
        (reads_parseExpression tokens).finds found
      refine ⟨consumed, split, ?_⟩
      rw [same]
      exact settled.blames fun nothing => notAtEnd (List.map_eq_nil_iff.mp nothing)

theorem parseTokens_of_lexemes {derivation : Derivation .expression}
    (spelled : derivation.lexemes = lexemes tokens) :
    parseTokens tokens = .ok derivation.value ∧ Settled derivation [] := by
  cases result : parseTokens tokens with
  | error failure =>
      obtain ⟨consumed, split, blames⟩ := parseTokens_error result
      refine absurd ⟨derivation, ?_⟩ (blames.hopeless _ rfl)
      rw [spelled, split, lexemes_append]
  | ok condition =>
      obtain ⟨other, same, rfl, settled⟩ := parseTokens_ok result
      obtain rfl : derivation = other :=
        settled derivation [] [] (endsBefore_nil _) rfl (by rw [spelled, same])
      exact ⟨rfl, settled⟩

end Traceability.Expression
