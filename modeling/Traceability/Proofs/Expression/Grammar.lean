import Traceability.Expression.Parser

/-!
Contract: the grammar of filter expressions, and how far its phrases reach.

A derivation is a tree of the productions of one nonterminal. It has the
lexemes that it derives, and the value that the productions give it:
parentheses leave no trace in the value, and a chain is one condition over all
of its members. A pattern is an operand only if it is valid, which its type
says.

Reading from the left with one lexeme in view never has to go back. A
derivation is *settled* by what follows if no other derivation begins with the
same lexemes and goes on with the same next one; a place is *refused* if some
phrase begins with the lexemes before it and none goes on with the next one.
What follows a phrase as a whole is never something that could extend it.

Owns: derivations, their lexemes and values, and for each production what
settles it and where it is refused.
Does not own: in which order a reader tries the productions.
-/

namespace Traceability

namespace Expression

/-! ### Phrases and what follows them -/

inductive Nonterminal where
  | expression
  /-- Further members after a connective, if there are any. -/
  | chain (connective : Connective)
  | unary
  | primary
  | comparison
  | operands

/-- The sign of a comparison. -/
def sign : Bool → Lexeme
  | false => .equal
  | true => .unequal

/-- The lexeme of a connective. -/
def Connective.lexeme (connective : Connective) : Lexeme := .word connective.keyword

theorem Connective.lexeme_injective {left right : Connective}
    (same : left.lexeme = right.lexeme) : left = right := by
  cases left <;> cases right <;> simp [Connective.lexeme, Connective.keyword] at same ⊢

/-- Whether a text begins with a connective. -/
def BeginsWithConnective (text : List Lexeme) : Prop :=
  ∃ connective : Connective, text.head? = some connective.lexeme

/-- Whether a phrase of the nonterminal may end before `after`, since nothing
there could extend it. -/
def Nonterminal.EndsBefore (after : List Lexeme) : Nonterminal → Prop
  | .expression | .chain _ => after.head? ≠ some .comma ∧ ¬BeginsWithConnective after
  | .unary | .primary | .comparison | .operands => after.head? ≠ some .comma

theorem endsBefore_nil (nonterminal : Nonterminal) : nonterminal.EndsBefore [] := by
  cases nonterminal <;> simp [Nonterminal.EndsBefore, BeginsWithConnective]

/-- What an expression in parentheses is followed by. -/
theorem endsBefore_closeParen (after : List Lexeme) :
    Nonterminal.expression.EndsBefore (.closeParen :: after) := by
  simp [Nonterminal.EndsBefore, BeginsWithConnective, Connective.lexeme]

theorem head?_append_congr {consumed rest tail : List Lexeme}
    (sameHead : tail.head? = rest.head?) :
    (consumed ++ tail).head? = (consumed ++ rest).head? := by
  rw [List.head?_append, List.head?_append, sameHead]

end Expression

variable [PatternEngine]

/-- The lexeme that stands for an operand. -/
def Operand.lexeme : Operand → Expression.Lexeme
  | .literal text => .literal text
  | .pattern regex => .pattern (PatternEngine.text regex)

theorem Operand.lexeme_injective {left right : Operand} (same : left.lexeme = right.lexeme) :
    left = right := by
  cases left <;> cases right <;> simp only [lexeme, Expression.Lexeme.literal.injEq,
    Expression.Lexeme.pattern.injEq, reduceCtorEq] at same
  · rw [same]
  · rw [PatternEngine.eq_of_text_eq same]

namespace Expression

/-! ### Derivations -/

/-- What a phrase says. -/
@[reducible] def Nonterminal.Value : Nonterminal → Type
  | .chain _ => List Condition
  | .operands => NonEmptyList Operand
  | .expression | .unary | .primary | .comparison => Condition

inductive Derivation : Nonterminal → Type where
  | alone (only : Derivation .unary) : Derivation .expression
  | chained (connective : Connective) (first second : Derivation .unary)
      (others : Derivation (.chain connective)) : Derivation .expression
  | done {connective : Connective} : Derivation (.chain connective)
  | more {connective : Connective} (member : Derivation .unary)
      (others : Derivation (.chain connective)) : Derivation (.chain connective)
  | negation (member : Derivation .unary) : Derivation .unary
  | plain (member : Derivation .primary) : Derivation .unary
  | grouped (inner : Derivation .expression) : Derivation .primary
  | compared (inner : Derivation .comparison) : Derivation .primary
  | comparison (negated : Bool) (operands : Derivation .operands) : Derivation .comparison
  | one (operand : Operand) : Derivation .operands
  | another (operand : Operand) (others : Derivation .operands) : Derivation .operands

namespace Derivation

/-- The lexemes that a derivation derives. -/
@[simp] def lexemes : {nonterminal : Nonterminal} → Derivation nonterminal → List Lexeme
  | _, .alone only => only.lexemes
  | _, .chained connective first second others =>
      first.lexemes ++ connective.lexeme :: (second.lexemes ++ others.lexemes)
  | _, .done => []
  | .chain connective, .more member others =>
      connective.lexeme :: (member.lexemes ++ others.lexemes)
  | _, .negation member => .word "not" :: member.lexemes
  | _, .plain member => member.lexemes
  | _, .grouped inner => .openParen :: (inner.lexemes ++ [.closeParen])
  | _, .compared inner => inner.lexemes
  | _, .comparison negated operands => .word "ids" :: sign negated :: operands.lexemes
  | _, .one operand => [operand.lexeme]
  | _, .another operand others => operand.lexeme :: .comma :: others.lexemes

/-- A comparison with the empty literal. -/
def shortest : Derivation .comparison := .comparison false (.one (.literal ""))

/-- What a derivation says. -/
def value : {nonterminal : Nonterminal} → Derivation nonterminal → nonterminal.Value
  | _, .alone only => only.value
  | _, .chained connective first second others =>
      connective.combine (first.value :: second.value :: others.value)
  | _, .done => []
  | _, .more member others => member.value :: others.value
  | _, .negation member => .not member.value
  | _, .plain member => member.value
  | _, .grouped inner => inner.value
  | _, .compared inner => inner.value
  | _, .comparison negated operands => .comparison negated operands.value
  | _, .one operand => ⟨operand, []⟩
  | _, .another operand others => ⟨operand, others.value.toList⟩

end Derivation

/-- Whether lexemes are those of an expression. -/
def Accepted (lexemes : List Lexeme) : Prop :=
  ∃ derivation : Derivation .expression, derivation.lexemes = lexemes

/-! ### What settles a phrase -/

/-- No other derivation has lexemes that agree with those of `derivation` and,
after them, with the first one of `rest`. -/
def Settled {nonterminal : Nonterminal} (derivation : Derivation nonterminal)
    (rest : List Lexeme) : Prop :=
  ∀ (other : Derivation nonterminal) (after tail : List Lexeme), nonterminal.EndsBefore after →
    tail.head? = rest.head? → other.lexemes ++ after = derivation.lexemes ++ tail →
      other = derivation

/-- Some phrase begins with `consumed`, and none goes on with the first lexeme
of `rest`, or ends there if there is none. -/
structure Refused (nonterminal : Nonterminal) (consumed rest : List Lexeme) : Prop where
  viable : ∃ (derivation : Derivation nonterminal) (completion : List Lexeme),
    derivation.lexemes = consumed ++ completion
  hopeless : ∀ (other : Derivation nonterminal) (after tail : List Lexeme),
    nonterminal.EndsBefore after → tail.head? = rest.head? →
      other.lexemes ++ after ≠ consumed ++ tail

variable {consumed rest tail after : List Lexeme} {connective : Connective}

namespace Derivation

theorem lexemes_chained_append (first second : Derivation .unary)
    (others : Derivation (.chain connective)) (after : List Lexeme) :
    (chained connective first second others).lexemes ++ after =
      first.lexemes ++ ((more second others).lexemes ++ after) :=
  List.append_assoc _ _ _

/-- A condition may end before a connective. -/
theorem unary_endsBefore_more (member : Derivation .unary)
    (others : Derivation (.chain connective)) (after : List Lexeme) :
    Nonterminal.unary.EndsBefore ((more member others).lexemes ++ after) := by
  simp [Nonterminal.EndsBefore, lexemes, Connective.lexeme]

/-- A member of a chain may end where the chain goes on. -/
theorem unary_endsBefore (others : Derivation (.chain connective))
    (ends : (Nonterminal.chain connective).EndsBefore after) :
    Nonterminal.unary.EndsBefore (others.lexemes ++ after) := by
  cases others with
  | done => exact ends.1
  | more member others => exact unary_endsBefore_more member others after

theorem head?_primary (derivation : Derivation .primary) (after : List Lexeme) :
    (derivation.lexemes ++ after).head? = some .openParen ∨
      (derivation.lexemes ++ after).head? = some (.word "ids") := by
  cases derivation with
  | grouped inner => exact Or.inl rfl
  | compared inner =>
      cases inner with
      | comparison negated operands => exact Or.inr rfl

theorem primary_append_ne_not (derivation : Derivation .primary) (after text : List Lexeme) :
    derivation.lexemes ++ after ≠ .word "not" :: text := by
  intro same
  have head := derivation.head?_primary after
  rw [same, List.head?_cons] at head
  exact absurd head (by decide)

theorem comparison_append_ne_openParen (derivation : Derivation .comparison)
    (after text : List Lexeme) : derivation.lexemes ++ after ≠ .openParen :: text := by
  cases derivation with
  | comparison negated operands => simp

end Derivation

/-! ### Operands and comparisons -/

theorem Settled.one {operand : Operand} (noComma : rest.head? ≠ some .comma) :
    Settled (.one operand) rest := by
  intro other after tail _ sameHead equal
  cases other with
  | one operand' =>
      simp only [Derivation.lexemes, List.cons_append, List.cons.injEq] at equal
      rw [Operand.lexeme_injective equal.1]
  | another operand' others =>
      simp only [Derivation.lexemes, List.cons_append, List.nil_append, List.cons.injEq] at equal
      exact absurd (by rw [← sameHead, ← equal.2]; rfl) noComma

theorem Settled.another {operand : Operand} {others : Derivation .operands}
    (settled : Settled others rest) : Settled (.another operand others) rest := by
  intro other after tail ends sameHead equal
  cases other with
  | one operand' =>
      simp only [Derivation.lexemes, List.cons_append, List.nil_append, List.cons.injEq] at equal
      exact absurd (by rw [equal.2]; rfl) ends
  | another operand' others' =>
      simp only [Derivation.lexemes, List.cons_append, List.cons.injEq, true_and] at equal
      rw [Operand.lexeme_injective equal.1, settled _ _ _ ends sameHead equal.2]

theorem Refused.noOperand
    (noOperand : ∀ operand : Operand, rest.head? ≠ some operand.lexeme) :
    Refused .operands [] rest where
  viable := ⟨.one (.literal ""), _, rfl⟩
  hopeless := by
    intro other after tail _ sameHead equal
    cases other with
    | one operand =>
        apply noOperand operand
        rw [← sameHead, ← List.nil_append tail, ← equal]
        rfl
    | another operand others =>
        apply noOperand operand
        rw [← sameHead, ← List.nil_append tail, ← equal]
        rfl

theorem Refused.another {operand : Operand} (refused : Refused .operands consumed rest) :
    Refused .operands (operand.lexeme :: .comma :: consumed) rest where
  viable := by
    obtain ⟨derivation, completion, begins⟩ := refused.viable
    exact ⟨.another operand derivation, completion, by rw [Derivation.lexemes, begins]; rfl⟩
  hopeless := by
    intro other after tail ends sameHead equal
    cases other with
    | one operand' =>
        simp only [Derivation.lexemes, List.cons_append, List.nil_append, List.cons.injEq] at equal
        exact ends (by rw [equal.2]; rfl)
    | another operand' others =>
        simp only [Derivation.lexemes, List.cons_append, List.cons.injEq, true_and] at equal
        exact refused.hopeless _ _ _ ends sameHead equal.2

theorem Settled.comparison {negated : Bool} {operands : Derivation .operands}
    (settled : Settled operands rest) : Settled (.comparison negated operands) rest := by
  intro other after tail ends sameHead equal
  cases other with
  | comparison negated' operands' =>
      simp only [Derivation.lexemes, List.cons_append, List.cons.injEq, true_and] at equal
      have sameSign : negated' = negated := by
        cases negated' <;> cases negated <;> simp [sign] at equal ⊢
      rw [sameSign, settled _ _ _ ends sameHead equal.2]

theorem Refused.comparison {negated : Bool} (refused : Refused .operands consumed rest) :
    Refused .comparison (.word "ids" :: sign negated :: consumed) rest where
  viable := by
    obtain ⟨derivation, completion, begins⟩ := refused.viable
    exact ⟨.comparison negated derivation, completion, by rw [Derivation.lexemes, begins]; rfl⟩
  hopeless := by
    intro other after tail ends sameHead equal
    cases other with
    | comparison negated' operands =>
        simp only [Derivation.lexemes, List.cons_append, List.cons.injEq, true_and] at equal
        exact refused.hopeless _ _ _ ends sameHead equal.2

theorem Refused.noSign (noSign : ∀ negated, rest.head? ≠ some (sign negated)) :
    Refused .comparison [.word "ids"] rest where
  viable := ⟨.shortest, _, rfl⟩
  hopeless := by
    intro other after tail _ sameHead equal
    cases other with
    | comparison negated operands =>
        simp only [Derivation.lexemes, List.cons_append, List.nil_append, List.cons.injEq,
          true_and] at equal
        exact noSign negated (by rw [← sameHead, ← equal]; rfl)

/-! ### Groups and negations -/

theorem Settled.compared {inner : Derivation .comparison} (settled : Settled inner rest) :
    Settled (.compared inner) rest := by
  intro other after tail ends sameHead equal
  cases other with
  | grouped inner' => exact absurd equal.symm (inner.comparison_append_ne_openParen tail _)
  | compared inner' => rw [settled _ _ _ ends sameHead equal]

theorem Refused.compared (refused : Refused .comparison consumed rest)
    (isField : (consumed ++ rest).head? = some (.word "ids")) :
    Refused .primary consumed rest where
  viable := by
    obtain ⟨derivation, completion, begins⟩ := refused.viable
    exact ⟨.compared derivation, completion, begins⟩
  hopeless := by
    intro other after tail ends sameHead equal
    cases other with
    | grouped inner =>
        rw [← head?_append_congr sameHead, ← equal] at isField
        cases isField
    | compared inner => exact refused.hopeless _ _ _ ends sameHead equal

theorem Settled.grouped {inner : Derivation .expression}
    (settled : Settled inner (.closeParen :: rest)) : Settled (.grouped inner) rest := by
  intro other after tail _ _ equal
  cases other with
  | grouped inner' =>
      simp only [Derivation.lexemes, List.cons_append, List.append_assoc, List.nil_append,
        List.cons.injEq, true_and] at equal
      rw [settled _ _ (.closeParen :: tail) (endsBefore_closeParen after) rfl equal]
  | compared inner' => exact absurd equal (inner'.comparison_append_ne_openParen after _)

theorem Refused.grouped (refused : Refused .expression consumed rest) :
    Refused .primary (.openParen :: consumed) rest where
  viable := by
    obtain ⟨derivation, completion, begins⟩ := refused.viable
    exact ⟨.grouped derivation, completion ++ [.closeParen], by
      rw [Derivation.lexemes, begins, List.append_assoc]; rfl⟩
  hopeless := by
    intro other after tail _ sameHead equal
    cases other with
    | grouped inner =>
        simp only [Derivation.lexemes, List.cons_append, List.append_assoc, List.nil_append,
          List.cons.injEq, true_and] at equal
        exact refused.hopeless _ _ _ (endsBefore_closeParen after) sameHead equal
    | compared inner => exact inner.comparison_append_ne_openParen after _ equal

theorem Refused.unclosed {inner : Derivation .expression} (settled : Settled inner rest)
    (unclosed : rest.head? ≠ some .closeParen) :
    Refused .primary (.openParen :: inner.lexemes) rest where
  viable := ⟨.grouped inner, [.closeParen], rfl⟩
  hopeless := by
    intro other after tail _ sameHead equal
    cases other with
    | grouped inner' =>
        simp only [Derivation.lexemes, List.cons_append, List.append_assoc, List.nil_append,
          List.cons.injEq, true_and] at equal
        obtain rfl : inner' = inner := settled _ _ _ (endsBefore_closeParen after) sameHead equal
        exact unclosed (by rw [← sameHead, ← List.append_cancel_left equal]; rfl)
    | compared inner' => exact inner'.comparison_append_ne_openParen after _ equal

theorem Refused.noPrimary (noGroup : rest.head? ≠ some .openParen)
    (noField : rest.head? ≠ some (.word "ids")) : Refused .primary [] rest where
  viable := ⟨.compared .shortest, _, rfl⟩
  hopeless := by
    intro other after tail _ sameHead equal
    rw [List.nil_append] at equal
    have head := other.head?_primary after
    rw [equal, sameHead] at head
    exact head.elim noGroup noField

theorem Settled.negation {member : Derivation .unary} (settled : Settled member rest) :
    Settled (.negation member) rest := by
  intro other after tail ends sameHead equal
  cases other with
  | negation member' =>
      simp only [Derivation.lexemes, List.cons_append, List.cons.injEq, true_and] at equal
      rw [settled _ _ _ ends sameHead equal]
  | plain member' => exact absurd equal (member'.primary_append_ne_not after _)

theorem Refused.negation (refused : Refused .unary consumed rest) :
    Refused .unary (.word "not" :: consumed) rest where
  viable := by
    obtain ⟨derivation, completion, begins⟩ := refused.viable
    exact ⟨.negation derivation, completion, by rw [Derivation.lexemes, begins]; rfl⟩
  hopeless := by
    intro other after tail ends sameHead equal
    cases other with
    | negation member =>
        simp only [Derivation.lexemes, List.cons_append, List.cons.injEq, true_and] at equal
        exact refused.hopeless _ _ _ ends sameHead equal
    | plain member => exact member.primary_append_ne_not after _ equal

theorem Settled.plain {member : Derivation .primary} (settled : Settled member rest) :
    Settled (.plain member) rest := by
  intro other after tail ends sameHead equal
  cases other with
  | negation member' => exact absurd equal.symm (member.primary_append_ne_not tail _)
  | plain member' => rw [settled _ _ _ ends sameHead equal]

theorem Refused.plain (refused : Refused .primary consumed rest)
    (noNegation : (consumed ++ rest).head? ≠ some (.word "not")) :
    Refused .unary consumed rest where
  viable := by
    obtain ⟨derivation, completion, begins⟩ := refused.viable
    exact ⟨.plain derivation, completion, begins⟩
  hopeless := by
    intro other after tail ends sameHead equal
    cases other with
    | negation member =>
        exact noNegation (by rw [← head?_append_congr sameHead, ← equal]; rfl)
    | plain member => exact refused.hopeless _ _ _ ends sameHead equal

/-! ### Chains -/

/-- What extends a chain that is over begins with its connective. -/
theorem Derivation.head?_of_done {text : List Lexeme}
    (goesOn : (done : Derivation (.chain connective)).lexemes ++ after =
      connective.lexeme :: text) : after.head? = some connective.lexeme := by
  have isCons : after = connective.lexeme :: text := goesOn
  rw [isCons]
  rfl

theorem Settled.done (noMore : rest.head? ≠ some connective.lexeme) :
    Settled (.done : Derivation (.chain connective)) rest := by
  intro other after tail _ sameHead equal
  cases other with
  | done => rfl
  | more member others =>
      exact absurd (sameHead.symm.trans (Derivation.head?_of_done equal.symm)) noMore

/-- Where a connective follows, the chain is not over. -/
theorem Settled.head?_ne_of_done (settled : Settled (.done : Derivation (.chain connective)) rest) :
    rest.head? ≠ some connective.lexeme := by
  intro goesOn
  have longer : Derivation.more (.plain (.compared .shortest)) .done =
      (.done : Derivation (.chain connective)) :=
    settled _ [] (connective.lexeme :: Derivation.shortest.lexemes) (endsBefore_nil _)
      goesOn.symm (by simp)
  cases longer

theorem Settled.more {member : Derivation .unary} {others : Derivation (.chain connective)}
    (memberSettled : Settled member (others.lexemes ++ rest))
    (othersSettled : Settled others rest) :
    Settled (.more member others) rest := by
  intro other after tail ends sameHead equal
  cases other with
  | done => exact absurd ⟨connective, Derivation.head?_of_done equal⟩ ends.2
  | more member' others' =>
      simp only [Derivation.lexemes, List.cons_append, List.append_assoc, List.cons.injEq,
        true_and] at equal
      obtain rfl : member' = member :=
        memberSettled _ _ _ (others'.unary_endsBefore ends) (head?_append_congr sameHead) equal
      rw [othersSettled _ _ _ ends sameHead (List.append_cancel_left equal)]

theorem Refused.member (refused : Refused .unary consumed rest) :
    Refused (.chain connective) (connective.lexeme :: consumed) rest where
  viable := by
    obtain ⟨derivation, completion, begins⟩ := refused.viable
    exact ⟨.more derivation .done, completion, by
      rw [Derivation.lexemes, begins, Derivation.lexemes, List.append_nil]; rfl⟩
  hopeless := by
    intro other after tail ends sameHead equal
    cases other with
    | done => exact ends.2 ⟨connective, Derivation.head?_of_done equal⟩
    | more member others =>
        simp only [Derivation.lexemes, List.cons_append, List.append_assoc, List.cons.injEq,
          true_and] at equal
        exact refused.hopeless _ _ _ (others.unary_endsBefore ends) sameHead equal

theorem Refused.others {member : Derivation .unary}
    (memberSettled : Settled member (consumed ++ rest))
    (refused : Refused (.chain connective) consumed rest) :
    Refused (.chain connective) (connective.lexeme :: (member.lexemes ++ consumed)) rest where
  viable := by
    obtain ⟨derivation, completion, begins⟩ := refused.viable
    exact ⟨.more member derivation, completion, by
      rw [Derivation.lexemes, begins, ← List.append_assoc]; rfl⟩
  hopeless := by
    intro other after tail ends sameHead equal
    cases other with
    | done => exact ends.2 ⟨connective, Derivation.head?_of_done equal⟩
    | more member' others =>
        simp only [Derivation.lexemes, List.cons_append, List.append_assoc, List.cons.injEq,
          true_and] at equal
        obtain rfl : member' = member :=
          memberSettled _ _ _ (others.unary_endsBefore ends) (head?_append_congr sameHead) equal
        exact refused.hopeless _ _ _ ends sameHead (List.append_cancel_left equal)

theorem Refused.mixed (mixed : rest.head? = some connective.other.lexeme) :
    Refused (.chain connective) [] rest where
  viable := ⟨.done, [], rfl⟩
  hopeless := by
    intro other after tail ends sameHead equal
    rw [List.nil_append] at equal
    rw [← sameHead, ← equal] at mixed
    cases other with
    | done => exact ends.2 ⟨connective.other, mixed⟩
    | more member others =>
        have same : connective.lexeme = connective.other.lexeme := Option.some.inj mixed
        have impossible := Connective.lexeme_injective same
        cases connective <;> cases impossible

/-! ### Expressions -/

theorem Settled.alone {only : Derivation .unary} (settled : Settled only rest)
    (noConnective : ¬BeginsWithConnective rest) : Settled (.alone only) rest := by
  intro other after tail ends sameHead equal
  cases other with
  | alone only' => rw [settled _ _ _ ends.1 sameHead equal]
  | chained connective first second others =>
      rw [Derivation.lexemes_chained_append] at equal
      obtain rfl : first = only :=
        settled _ _ _ (Derivation.unary_endsBefore_more second others after) sameHead equal
      have goesOn := List.append_cancel_left equal
      exact absurd ⟨connective, by rw [← sameHead, ← goesOn]; rfl⟩ noConnective

theorem Settled.chained {first second : Derivation .unary}
    {others : Derivation (.chain connective)}
    (firstSettled : Settled first ((Derivation.more second others).lexemes ++ rest))
    (chainSettled : Settled (.more second others) rest) :
    Settled (.chained connective first second others) rest := by
  intro other after tail ends sameHead equal
  rw [Derivation.lexemes_chained_append] at equal
  cases other with
  | alone only =>
      obtain rfl : only = first :=
        firstSettled _ _ _ ends.1 (head?_append_congr sameHead) equal
      have goesOn := List.append_cancel_left equal
      exact absurd ⟨connective, by rw [goesOn]; rfl⟩ ends.2
  | chained connective' first' second' others' =>
      rw [Derivation.lexemes_chained_append] at equal
      obtain rfl : first' = first :=
        firstSettled _ _ _ (Derivation.unary_endsBefore_more second' others' after)
          (head?_append_congr sameHead) equal
      have goesOn := List.append_cancel_left equal
      obtain rfl : connective' = connective :=
        Connective.lexeme_injective (List.cons.inj goesOn).1
      cases chainSettled (.more second' others') _ _ ends sameHead goesOn
      rfl

theorem Refused.first (refused : Refused .unary consumed rest) :
    Refused .expression consumed rest where
  viable := by
    obtain ⟨derivation, completion, begins⟩ := refused.viable
    exact ⟨.alone derivation, completion, begins⟩
  hopeless := by
    intro other after tail ends sameHead equal
    cases other with
    | alone only => exact refused.hopeless _ _ _ ends.1 sameHead equal
    | chained connective first second others =>
        rw [Derivation.lexemes_chained_append] at equal
        exact refused.hopeless _ _ _ (Derivation.unary_endsBefore_more second others after)
          sameHead equal

theorem Refused.chain {first : Derivation .unary} (firstSettled : Settled first (consumed ++ rest))
    (goesOn : (consumed ++ rest).head? = some connective.lexeme)
    (refused : Refused (.chain connective) consumed rest) :
    Refused .expression (first.lexemes ++ consumed) rest where
  viable := by
    obtain ⟨derivation, completion, begins⟩ := refused.viable
    cases derivation with
    | done =>
        have nothing : consumed = [] := (List.nil_eq_append_iff.mp begins).1
        exact ⟨.alone first, [], by rw [nothing, List.append_nil, List.append_nil]; rfl⟩
    | more second others =>
        exact ⟨.chained connective first second others, completion, by
          rw [List.append_assoc, ← begins]; rfl⟩
  hopeless := by
    intro other after tail ends sameHead equal
    have headOfTail := (head?_append_congr sameHead).trans goesOn
    rw [List.append_assoc] at equal
    cases other with
    | alone only =>
        obtain rfl : only = first :=
          firstSettled _ _ _ ends.1 (head?_append_congr sameHead) equal
        exact ends.2 ⟨connective, by rw [List.append_cancel_left equal, headOfTail]⟩
    | chained connective' first' second others =>
        rw [Derivation.lexemes_chained_append] at equal
        obtain rfl : first' = first :=
          firstSettled _ _ _ (Derivation.unary_endsBefore_more second others after)
            (head?_append_congr sameHead) equal
        have goesOn' := List.append_cancel_left equal
        rw [← goesOn'] at headOfTail
        obtain rfl : connective' = connective :=
          Connective.lexeme_injective (Option.some.inj headOfTail)
        exact refused.hopeless (.more second others) _ _ ends sameHead goesOn'

end Expression

end Traceability
