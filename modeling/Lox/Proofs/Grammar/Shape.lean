import Lox.Proofs.Grammar.Rules

/-!
# What derivations look like

With which tokens a derivation can begin, which derivations spell a variable or a property, and that
a closed statement is a statement. A reader that looks at the next token only takes the right turn
because of the first of these; the second says what can stand before an equals sign.
-/

namespace Lox.Grammar

open Lox.Token (Kind)

/-- The kinds with which an expression of a level can begin. -/
def Tier.begins (tier : Tier) : Kind → Bool
  | .kwFalse | .kwTrue | .kwNil | .number | .string | .kwThis | .identifier | .kwSuper
  | .leftParen | .kwFun => true
  | .bang | .minus => tier ≠ .call && tier ≠ .primary
  | _ => false

/-- The kinds with which a statement can begin. -/
def statementBegins : Kind → Bool
  | .kwFor | .kwIf | .kwPrint | .kwReturn | .kwWhile | .kwBreak | .kwContinue | .leftBrace => true
  | kind => Tier.comma.begins kind

/-- The kinds with which a declaration or a statement can begin. -/
def declarationBegins : Kind → Bool
  | .kwClass | .kwLet => true
  | kind => statementBegins kind

/-- The first token is of one of the given kinds. -/
def BeginsWith (kinds : Kind → Bool) (tokens : List Token) : Prop :=
  ∃ first rest, tokens = first :: rest ∧ kinds first.kind = true

/-- Whatever follows, a `fun` in front has a parenthesis behind it, so it does not declare a
function. -/
def Unnamed (tokens : List Token) : Prop :=
  ∀ more keyword second rest, tokens ++ more = keyword :: second :: rest →
    keyword.kind = .kwFun → second.kind = .leftParen

theorem BeginsWith.mono {kinds more : Kind → Bool} {tokens : List Token}
    (begins : BeginsWith kinds tokens) (wider : ∀ kind, kinds kind = true → more kind = true) :
    BeginsWith more tokens := by
  obtain ⟨first, rest, same, known⟩ := begins
  exact ⟨first, rest, same, wider _ known⟩

theorem BeginsWith.append {kinds : Kind → Bool} {tokens : List Token}
    (begins : BeginsWith kinds tokens) (more : List Token) :
    BeginsWith kinds (tokens ++ more) := by
  obtain ⟨first, rest, rfl, known⟩ := begins
  exact ⟨first, rest ++ more, rfl, known⟩

theorem BeginsWith.ne_nil {kinds : Kind → Bool} {tokens : List Token}
    (begins : BeginsWith kinds tokens) : tokens ≠ [] := by
  obtain ⟨first, rest, rfl, -⟩ := begins
  exact List.cons_ne_nil first rest

theorem Unnamed.append {tokens : List Token} (unnamed : Unnamed tokens) (others : List Token) :
    Unnamed (tokens ++ others) := by
  intro more keyword second rest same
  rw [List.append_assoc] at same
  exact unnamed _ keyword second rest same

theorem Unnamed.of_ne {first : Token} (other : first.kind ≠ .kwFun) (rest : List Token) :
    Unnamed (first :: rest) := by
  intro more keyword second tail same isFun
  rw [List.cons_append, List.cons.injEq] at same
  exact absurd (same.1 ▸ isFun) other

theorem Tier.begins_of_next {tier next : Tier} (below : tier.next? = some next) (kind : Kind)
    (begins : next.begins kind = true) : tier.begins kind = true := by
  cases tier <;> cases below <;> cases kind <;> first | exact begins | rfl

theorem Tier.begins_comma {tier : Tier} (kind : Kind) (begins : tier.begins kind = true) :
    Tier.comma.begins kind = true := by
  cases kind <;> first | exact begins | rfl

theorem statementBegins_of_expr (kind : Kind) (begins : Tier.comma.begins kind = true) :
    statementBegins kind = true := by
  cases kind <;> first | exact begins | rfl

theorem declarationBegins_of_statement (kind : Kind) (begins : statementBegins kind = true) :
    declarationBegins kind = true := by
  cases kind <;> first | exact begins | rfl

/-- What is known of the first tokens of a derivation. -/
def Nonterminal.Begins : Nonterminal → List Token → Prop
  | expr tier, tokens => BeginsWith tier.begins tokens ∧ Unnamed tokens
  | elements, tokens => BeginsWith Tier.comma.begins tokens
  | routine, tokens => BeginsWith (· = .leftParen) tokens
  | definition, tokens => BeginsWith (· = .kwLet) tokens
  | statement _ _, tokens => BeginsWith statementBegins tokens ∧ Unnamed tokens
  | declaration _, tokens => BeginsWith declarationBegins tokens
  | block _, tokens => tokens = [] ∨ BeginsWith declarationBegins tokens
  | _, _ => True

theorem begins_of_keyword {kinds : Kind → Bool} {keyword : Token} {kind : Kind}
    (isKind : keyword.kind = kind) (known : kinds kind = true) (other : kind ≠ .kwFun)
    (rest : List Token) : BeginsWith kinds (keyword :: rest) ∧ Unnamed (keyword :: rest) :=
  ⟨⟨keyword, rest, rfl, isKind ▸ known⟩, .of_ne (isKind ▸ other) rest⟩

theorem begins_of_atom {token : Token} {expr : Expr} (alone : Atom token expr) :
    BeginsWith Tier.primary.begins [token] ∧ Unnamed [token] := by
  cases alone <;> exact begins_of_keyword ‹_› rfl (by decide) []

theorem begins_of_sign {operator : Token} {op : UnaryOp} (signs : Signs operator.kind op)
    (rest : List Token) :
    BeginsWith Tier.unary.begins (operator :: rest) ∧ Unnamed (operator :: rest) := by
  generalize same : operator.kind = kind at signs
  cases signs <;> exact begins_of_keyword same rfl (by decide) rest

/-- The parenthesis of its parameters is behind the keyword of a routine without a name. -/
theorem begins_of_lambda {keyword : Token} {tokens : List Token} (isFun : keyword.kind = .kwFun)
    (begins : BeginsWith (· = .leftParen) tokens) :
    BeginsWith Tier.primary.begins (keyword :: tokens) ∧ Unnamed (keyword :: tokens) := by
  obtain ⟨opening, rest, rfl, opens⟩ := begins
  refine ⟨⟨keyword, opening :: rest, rfl, isFun ▸ rfl⟩, ?_⟩
  intro more first second tail same _
  simp only [List.cons_append, List.cons.injEq] at same
  obtain ⟨-, rfl, -⟩ := same
  exact of_decide_eq_true opens

theorem Derives.begins {n : Nonterminal} {tokens : List Token} {tree : n.Tree}
    (derives : Derives n tokens tree) : n.Begins tokens := by
  induction derives with
  | tighter below _ ih => exact ⟨ih.1.mono (Tier.begins_of_next below), ih.2⟩
  | join _ _ _ _ ih _ => exact ⟨ih.1.append _, ih.2.append _⟩
  | assign isName => exact begins_of_keyword isName rfl (by decide) _
  | set _ _ _ _ _ ih _ => exact ⟨(ih.1.mono Tier.begins_comma).append _, ih.2.append _⟩
  | conditional _ _ _ _ _ ih _ _ =>
    rw [List.append_assoc]
    exact ⟨ih.1.append _, ih.2.append _⟩
  | sign signs => exact begins_of_sign signs _
  | call _ _ _ _ ih _ =>
    rw [List.append_assoc]
    exact ⟨ih.1.append _, ih.2.append _⟩
  | get _ _ _ ih => exact ⟨ih.1.append _, ih.2.append _⟩
  | atom alone => exact begins_of_atom alone
  | super isSuper => exact begins_of_keyword isSuper rfl (by decide) _
  | grouping opens => exact begins_of_keyword opens rfl (by decide) _
  | lambda isFun _ ih => exact begins_of_lambda isFun ih
  | lastElement _ ih => exact ih.1
  | moreElements _ _ _ ih _ => exact ih.1.append _
  | someArguments | noArguments | leftOut | given | noMethods | moreMethods | noInitializer
  | definitionInitializer | expressionInitializer => trivial
  | routine opens => exact ⟨_, _, rfl, decide_eq_true opens⟩
  | define isLet => exact ⟨_, _, rfl, decide_eq_true isLet⟩
  | defineAs isLet => exact ⟨_, _, rfl, decide_eq_true isLet⟩
  | expression _ _ ih => exact ⟨(ih.1.mono statementBegins_of_expr).append _, ih.2.append _⟩
  | print isPrint => exact begins_of_keyword isPrint rfl (by decide) _
  | giveBack isReturn => exact begins_of_keyword isReturn rfl (by decide) _
  | breakLoop isBreak => exact begins_of_keyword isBreak rfl (by decide) _
  | continueLoop isContinue => exact begins_of_keyword isContinue rfl (by decide) _
  | braces opens => exact begins_of_keyword opens rfl (by decide) _
  | whileLoop isWhile => exact begins_of_keyword isWhile rfl (by decide) _
  | forLoop isFor => exact begins_of_keyword isFor rfl (by decide) _
  | branch isIf => exact begins_of_keyword isIf rfl (by decide) _
  | branchAlone isIf => exact begins_of_keyword isIf rfl (by decide) _
  | definition _ ih =>
    obtain ⟨keyword, rest, rfl, isLet⟩ := ih
    exact ⟨keyword, rest, rfl, of_decide_eq_true isLet ▸ rfl⟩
  | function isFun => exact ⟨_, _, rfl, isFun ▸ rfl⟩
  | classDecl isClass => exact (begins_of_keyword isClass rfl (by decide) _).1
  | statement _ ih => exact ih.1.mono declarationBegins_of_statement
  | done => exact .inl rfl
  | next _ _ ih _ => exact .inr (ih.append _)

/-- What can stand before an equals sign: a name, or a name behind the dot of a call. -/
def TargetShape (tokens : List Token) : Expr → Prop
  | .var name => tokens = [name] ∧ name.kind = .identifier
  | .get object name => ∃ objects dot, tokens = objects ++ [dot, name] ∧
      Derives (.expr .call) objects object ∧ dot.kind = .dot ∧ name.kind = .identifier
  | _ => True

def Nonterminal.Target : (n : Nonterminal) → List Token → n.Tree → Prop
  | expr _, tokens, tree => TargetShape tokens tree
  | _, _, _ => True

theorem Joins.target {tier : Tier} {kind : Kind} {node : Token → Expr → Expr → Expr}
    (joins : Joins tier kind node) (tokens : List Token) (operator : Token) (left right : Expr) :
    TargetShape tokens (node operator left right) := by
  cases joins <;> trivial

theorem Derives.target {n : Nonterminal} {tokens : List Token} {tree : n.Tree}
    (derives : Derives n tokens tree) : n.Target tokens tree := by
  induction derives with
  | tighter _ _ ih => exact ih
  | join joins => exact joins.target ..
  | get owner isDot isName => exact ⟨_, _, rfl, owner, isDot, isName⟩
  | atom alone =>
    cases alone with
    | var kind => exact ⟨rfl, kind⟩
    | _ => trivial
  | _ => trivial

/-- Every statement, also one that ends in an `if` without `else`, if it is at all a statement. -/
def Nonterminal.Opened : (n : Nonterminal) → List Token → n.Tree → Prop
  | statement place _, tokens, stmt => Derives (.statement place false) tokens stmt
  | _, _, _ => True

theorem Derives.opened {n : Nonterminal} {tokens : List Token} {tree : n.Tree}
    (derives : Derives n tokens tree) : n.Opened tokens tree := by
  induction derives with
  | expression evaluated ends => exact .expression evaluated ends
  | print isPrint printed ends => exact .print isPrint printed ends
  | giveBack isReturn allowed given ends => exact .giveBack isReturn allowed given ends
  | breakLoop isBreak allowed ends => exact .breakLoop isBreak allowed ends
  | continueLoop isContinue allowed ends => exact .continueLoop isContinue allowed ends
  | braces opens inside closes => exact .braces opens inside closes
  | whileLoop isWhile opens tested closes _ _ ih => exact .whileLoop isWhile opens tested closes ih
  | forLoop isFor opens starts tested ends advances closes _ _ _ _ ih =>
    exact .forLoop isFor opens starts tested ends advances closes ih
  | branch isIf opens tested closes chosen isElse _ _ _ ih =>
    exact .branch isIf opens tested closes chosen isElse ih
  | branchAlone isIf opens tested closes chosen =>
    exact .branchAlone isIf opens tested closes chosen
  | _ => trivial

end Lox.Grammar
