import Mathlib.Data.List.Chain
import Lox.Proofs.Grammar.Shape

/-!
# Neighbours in derivations

Behind a slash an expression begins. So no derivation has a star right behind a slash, which is what
the opening marker of a comment that never ends would be read as. And two programs side by side are
a program.
-/

namespace Lox.Grammar

open Lox.Token (Kind)

/-- Each slash has the first token of an expression behind it. -/
def SlashesLead : List Token → Prop
  | [] => True
  | token :: rest => (token.kind = .slash → BeginsWith Tier.comma.begins rest) ∧ SlashesLead rest

namespace SlashesLead

theorem nil : SlashesLead [] := trivial

theorem cons {token : Token} {kind : Kind} {rest : List Token} (isKind : token.kind = kind)
    (other : kind ≠ .slash) (leads : SlashesLead rest) : SlashesLead (token :: rest) :=
  ⟨fun slash => absurd (isKind.symm.trans slash) other, leads⟩

theorem single {token : Token} {kind : Kind} (isKind : token.kind = kind)
    (other : kind ≠ .slash) : SlashesLead [token] :=
  .cons isKind other .nil

theorem append {tokens more : List Token} (leads : SlashesLead tokens)
    (moreLead : SlashesLead more) : SlashesLead (tokens ++ more) := by
  induction tokens with
  | nil => exact moreLead
  | cons token rest ih => exact ⟨fun slash => (leads.1 slash).append more, ih leads.2⟩

/-- An operator that may be a slash, before its operand. -/
theorem operator {operator : Token} {operand : List Token} {tier : Tier}
    (begins : BeginsWith tier.begins operand) (leads : SlashesLead operand) :
    SlashesLead (operator :: operand) :=
  ⟨fun _ => begins.mono Tier.begins_comma, leads⟩

theorem isChain {tokens : List Token} (leads : SlashesLead tokens) :
    tokens.IsChain fun first second => first.kind = .slash → second.kind ≠ .star := by
  induction tokens with
  | nil => exact .nil
  | cons first rest ih =>
    cases rest with
    | nil => exact .singleton first
    | cons second rest =>
      refine .cons_cons (fun slash star => ?_) (ih leads.2)
      obtain ⟨next, others, same, begins⟩ := leads.1 slash
      obtain ⟨rfl, -⟩ := List.cons.inj same
      rw [star] at begins
      cases begins

end SlashesLead

theorem Atom.slashesLead {token : Token} {expr : Expr} (alone : Atom token expr) :
    SlashesLead [token] := by
  cases alone <;> exact .single ‹_› (by decide)

theorem Signs.slashesLead {operator : Token} {op : UnaryOp} (signs : Signs operator.kind op)
    {rest : List Token} (leads : SlashesLead rest) : SlashesLead (operator :: rest) := by
  generalize same : operator.kind = kind at signs
  cases signs <;> exact .cons same (by decide) leads

theorem Names.slashesLead {tokens names : List Token} (between : Names tokens names) :
    SlashesLead tokens := by
  induction between with
  | last isName => exact .single isName (by decide)
  | more isName isComma _ ih => exact .cons isName (by decide) (.cons isComma (by decide) ih)

theorem Parameters.slashesLead {tokens names : List Token} (takes : Parameters tokens names) :
    SlashesLead tokens := by
  cases takes with
  | none => exact .nil
  | some between => exact between.slashesLead

theorem Superclass.slashesLead {tokens : List Token} {name : Option Token}
    (extended : Superclass tokens name) : SlashesLead tokens := by
  cases extended with
  | none => exact .nil
  | some isLess isName => exact .cons isLess (by decide) (.single isName (by decide))

theorem Derives.slashesLead {n : Nonterminal} {tokens : List Token} {tree : n.Tree}
    (derives : Derives n tokens tree) : SlashesLead tokens := by
  induction derives with
  | tighter _ _ ih => exact ih
  | join _ _ _ second left right => exact left.append (.operator second.begins.1 right)
  | assign isName isEquals _ ih =>
    exact .cons isName (by decide) (.cons isEquals (by decide) ih)
  | set _ isDot isName isEquals _ owner value =>
    exact owner.append (.cons isDot (by decide) (.cons isName (by decide)
      (.cons isEquals (by decide) value)))
  | conditional _ isQuestion _ isColon _ condition yes no =>
    exact (condition.append (.cons isQuestion (by decide) yes)).append
      (.cons isColon (by decide) no)
  | sign signs _ ih => exact signs.slashesLead ih
  | call _ opens _ closes callee arguments =>
    exact (callee.append (.cons opens (by decide) arguments)).append (.single closes (by decide))
  | get _ isDot isName ih =>
    exact ih.append (.cons isDot (by decide) (.single isName (by decide)))
  | atom alone => exact alone.slashesLead
  | super isSuper isDot isName =>
    exact .cons isSuper (by decide) (.cons isDot (by decide) (.single isName (by decide)))
  | grouping opens _ closes ih =>
    exact .append (.cons opens (by decide) ih) (.single closes (by decide))
  | lambda isFun _ ih => exact .cons isFun (by decide) ih
  | leftOut => exact .nil
  | given _ ih => exact ih
  | lastElement _ ih => exact ih
  | moreElements _ isComma _ first rest => exact first.append (.cons isComma (by decide) rest)
  | noArguments => exact .nil
  | someArguments _ _ ih => exact ih
  | routine opens takes closes opensBody _ closesBody ih =>
    refine .append (.append ?_ ?_) (.single closesBody (by decide))
    · exact .cons opens (by decide) takes.slashesLead
    · exact .cons closes (by decide) (.cons opensBody (by decide) ih)
  | noMethods => exact .nil
  | moreMethods isName _ _ first rest => exact .append (.cons isName (by decide) first) rest
  | define isLet isName ends =>
    exact .cons isLet (by decide) (.cons isName (by decide) (.single ends (by decide)))
  | defineAs isLet isName isEquals _ ends ih =>
    refine .append (.cons isLet (by decide) ?_) (.single ends (by decide))
    exact .cons isName (by decide) (.cons isEquals (by decide) ih)
  | noInitializer ends => exact .single ends (by decide)
  | definitionInitializer _ ih => exact ih
  | expressionInitializer _ ends ih => exact ih.append (.single ends (by decide))
  | expression _ ends ih => exact ih.append (.single ends (by decide))
  | print isPrint _ ends ih =>
    exact .append (.cons isPrint (by decide) ih) (.single ends (by decide))
  | giveBack isReturn _ _ ends ih =>
    exact .append (.cons isReturn (by decide) ih) (.single ends (by decide))
  | breakLoop isBreak _ ends => exact .cons isBreak (by decide) (.single ends (by decide))
  | continueLoop isContinue _ ends =>
    exact .cons isContinue (by decide) (.single ends (by decide))
  | braces opens _ closes ih =>
    exact .append (.cons opens (by decide) ih) (.single closes (by decide))
  | whileLoop isWhile opens _ closes _ condition body =>
    refine .append (.cons isWhile (by decide) (.cons opens (by decide) condition)) ?_
    exact .cons closes (by decide) body
  | forLoop isFor opens _ _ ends _ closes _ first condition increment body =>
    refine .append (.append (.append ?_ condition) ?_) (.cons closes (by decide) body)
    · exact .cons isFor (by decide) (.cons opens (by decide) first)
    · exact .cons ends (by decide) increment
  | branch isIf opens _ closes _ isElse _ condition yes no =>
    refine .append (.append ?_ (.cons closes (by decide) yes)) (.cons isElse (by decide) no)
    exact .cons isIf (by decide) (.cons opens (by decide) condition)
  | branchAlone isIf opens _ closes _ condition yes =>
    refine .append ?_ (.cons closes (by decide) yes)
    exact .cons isIf (by decide) (.cons opens (by decide) condition)
  | definition _ ih => exact ih
  | function isFun isName _ ih => exact .cons isFun (by decide) (.cons isName (by decide) ih)
  | classDecl isClass isName extended opens _ closes ih =>
    refine .append (.append ?_ (.cons opens (by decide) ih)) (.single closes (by decide))
    exact .cons isClass (by decide) (.cons isName (by decide) extended.slashesLead)
  | statement _ ih => exact ih
  | done => exact .nil
  | next _ _ first rest => exact first.append rest

/-! ## Programs side by side -/

/-- If it is a block, it can be followed by another one. -/
def Nonterminal.Followed : (n : Nonterminal) → List Token → n.Tree → Prop
  | block place, tokens, stmts => ∀ more later, Derives (.block place) more later →
      Derives (.block place) (tokens ++ more) (stmts ++ later)
  | _, _, _ => True

theorem Derives.followed {n : Nonterminal} {tokens : List Token} {tree : n.Tree}
    (derives : Derives n tokens tree) : n.Followed tokens tree := by
  induction derives with
  | done => exact fun _ _ later => later
  | next first _ _ ih =>
    intro more stmts later
    rw [List.append_assoc]
    exact .next first (ih more stmts later)
  | _ => trivial

theorem Derives.append {place : Place} {tokens more : List Token} {stmts later : List Stmt}
    (first : Derives (.block place) tokens stmts) (second : Derives (.block place) more later) :
    Derives (.block place) (tokens ++ more) (stmts ++ later) :=
  first.followed more later second

end Lox.Grammar
