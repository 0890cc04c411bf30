import Mathlib.Data.List.ReduceOption
import Lox.Proofs.Grammar.Shape
import Lox.Proofs.Parser.Reading

/-!
# What is read without errors is derived

Each rule of the parser takes tokens that spell its result, unless it adds an error. A rule that
calls for rules deeper inside does so with a shorter rest, so that rules allowed one level less than
there are tokens never run out of levels.
-/

namespace Lox.Parser

open Lox.Grammar

/-- The tokens taken spell the result, if no error was added. -/
def Spells (n : Nonterminal) : Post n.Tree := fun used added _ tree =>
  used ≠ [] ∧ (added = [] → Derives n used tree)

/-- A statement with an `else` behind it is closed. -/
def SpellsStatement (place : Place) : Post Stmt := fun used added left stmt =>
  used ≠ [] ∧ (added = [] → Derives (.statement place (headIs .kwElse left)) used stmt)

/-- The tokens taken spell a statement behind its keyword. -/
def SpellsAfter (place : Place) (keyword : Token) : Post Stmt := fun used added left stmt =>
  added = [] → Derives (.statement place (headIs .kwElse left)) (keyword :: used) stmt

/-- A declaration is given exactly when no error was added, and takes at least one token. -/
def SpellsDeclaration (place : Place) : Post (Option Stmt) := fun used added left found =>
  (used = [] → left = []) ∧
    match found with
    | some stmt => added = [] ∧ Derives (.declaration place) used stmt
    | none => added ≠ []

/-- The items of a block, of which those with errors are left out. -/
def SpellsItems (place : Place) : Post (List (Option Stmt)) := fun used added _ found =>
  added = [] → Derives (.block place) used found.reduceOption

/-- What the rules called for deeper inside do before fewer than `depth` tokens. -/
structure Rules.Sound (source : Source) (depth : Nat) (rules : Rules) : Prop where
  expression : ∀ place rest, rest.length < depth →
    Reads source place rest rules.expression (Spells (.expr .comma))
  assignment : ∀ place rest, rest.length < depth →
    Reads source place rest rules.assignment (Spells (.expr .assignment))
  conditional : ∀ place rest, rest.length < depth →
    Reads source place rest rules.conditional (Spells (.expr .conditional))
  conjunction : ∀ place rest, rest.length < depth →
    Reads source place rest rules.conjunction (Spells (.expr .and))
  equality : ∀ place rest, rest.length < depth →
    Reads source place rest rules.equality (Spells (.expr .equality))
  comparison : ∀ place rest, rest.length < depth →
    Reads source place rest rules.comparison (Spells (.expr .comparison))
  term : ∀ place rest, rest.length < depth →
    Reads source place rest rules.term (Spells (.expr .term))
  factor : ∀ place rest, rest.length < depth →
    Reads source place rest rules.factor (Spells (.expr .factor))
  unary : ∀ place rest, rest.length < depth →
    Reads source place rest rules.unary (Spells (.expr .unary))
  statement : ∀ place rest, rest.length < depth →
    Reads source place rest rules.statement (SpellsStatement place)
  declaration : ∀ place rest, rest.length < depth →
    Reads source place rest rules.declaration (SpellsDeclaration place)

/-- The tier of a level of operators that group to the left. -/
def Level.tier : Level → Tier
  | comma => .comma
  | or => .or
  | and => .and
  | equality => .equality
  | comparison => .comparison
  | term => .term
  | factor => .factor

theorem Level.joins_of_join? {level : Level} {operator : Token} {join : Expr → Expr → Expr}
    (found : level.join? operator = some join) :
    ∃ node, Joins level.tier operator.kind node ∧ join = node operator := by
  unfold Level.join? at found
  split at found <;> cases found <;> rename_i isKind <;> rw [isKind] <;>
    exact ⟨_, by constructor, rfl⟩

theorem Level.join?_of_joins {level : Level} {operator : Token}
    {node : Token → Expr → Expr → Expr} (joins : Joins level.tier operator.kind node) :
    level.join? operator = some (node operator) := by
  generalize isKind : operator.kind = kind at joins
  cases level <;> cases joins <;> simp [Level.join?, isKind]

variable {source : Source} {place : Place} {rest : List Token} {rules : Rules} {depth : Nat}

theorem reads_leftGrouped (level : Level) {next : Tier} {operand : Parser Expr}
    (below : level.tier.next? = some next)
    (reads : ∀ left, left.length ≤ rest.length →
      Reads source place left operand (Spells (.expr next))) :
    Reads source place rest (leftGrouped level operand) (Spells (.expr level.tier)) := by
  refine .bind (reads rest (Nat.le_refl _)) fun firsts early left₁ first split ⟨taken, found⟩ => ?_
  refine .grow ⟨by simpa using taken, fun clean => ?_⟩ ?_
  · exact .tighter below (by simpa using found (by simpa using clean))
  · intro used added left tree split' kept
    refine .accept? (fun operator tail join next joined _ => ?_) fun _ => .pure ?_
    · obtain ⟨node, joins, rfl⟩ := Level.joins_of_join? joined
      have shorter := length_lt_of_next next
        (length_le_of_split split' (length_le_of_split split (Nat.le_refl _)))
      refine .bind (reads tail (Nat.le_of_lt shorter))
        fun rights further left' right _ ⟨_, second⟩ => .pure ?_
      refine ⟨by simp, fun clean => ?_⟩
      simp only [List.append_eq_nil_iff] at clean
      have derives := Derives.join joins below (kept.2 (by simp [clean])) (second (by simp [clean]))
      simpa using derives
    · simpa using kept

theorem spellsItems_cons {used more left : List Token} {added further : List SyntaxError}
    {result : Option Stmt} {results : List (Option Stmt)} {left' : List Token}
    (spells : SpellsDeclaration place used added left result)
    (others : SpellsItems place more further left' results) :
    SpellsItems place (used ++ more) (added ++ further) left' (result :: results) := by
  intro clean
  rw [List.append_eq_nil_iff] at clean
  cases result with
  | none => exact absurd clean.1 spells.2
  | some stmt =>
    rw [List.reduceOption_cons_of_some]
    exact .next spells.2.2 (others clean.2)

theorem reads_block (sound : rules.Sound source depth) (short : rest.length < depth) :
    Reads source place rest (block rules) fun used added _ body => used ≠ [] ∧
      (added = [] → ∃ tokens closing, used = tokens ++ [closing] ∧ closing.kind = .rightBrace ∧
        Derives (.block place) tokens body) := by
  have items : Reads source place rest (collect (untilBrace rules.declaration))
      (SpellsItems place) :=
    .collect_untilBrace (SpellsDeclaration place)
      (fun left shorter => sound.declaration place left (Nat.lt_of_le_of_lt shorter short))
      (fun _ _ => .done)
      fun _ _ _ _ _ _ _ _ spells others => spellsItems_cons spells others
  refine .bind items fun tokens added left found _ spells => ?_
  refine .expect fun closing tail _ closes => .pure ?_
  refine ⟨by simp, fun clean => ⟨tokens, closing, by simp, closes, spells (by simpa using clean)⟩⟩

theorem reads_expect (kind : Token.Kind) (what : Expectation) :
    Reads source place rest (expect kind what) fun used added _ token =>
      used = [token] ∧ added = [] ∧ token.kind = kind := by
  rw [← bind_pure (expect kind what)]
  exact .expect fun token tail _ isKind => .pure ⟨rfl, rfl, isKind⟩

theorem reads_parameters :
    Reads source place rest (untilParen .tooManyParameters (expect .identifier .parameterName))
      fun used added _ names => added = [] → Parameters used names := by
  refine (Reads.untilParen (by decide) (fun used name => used = [name] ∧ name.kind = .identifier)
    Names ?_ ?_ ?_).mono ?_
  · rintro used name ⟨rfl, isName⟩
    exact .last isName
  · rintro used name comma others names ⟨rfl, isName⟩ isComma between
    exact .more isName isComma between
  · intro left _
    refine (reads_expect .identifier .parameterName).mono ?_
    rintro used added left' name _ ⟨rfl, rfl, isName⟩
    exact ⟨by simp, fun _ => ⟨rfl, isName⟩⟩
  · intro used added left names _ found clean
    rcases found clean with ⟨rfl, rfl⟩ | ⟨between, few⟩
    · exact .none
    · exact .some between few

theorem reads_arguments (sound : rules.Sound source depth) (short : rest.length < depth) :
    Reads source place rest (untilParen .tooManyArguments rules.assignment)
      fun used added _ arguments => added = [] → Derives .arguments used arguments := by
  refine (Reads.untilParen (by decide) (Derives (.expr .assignment)) (Derives .elements)
    (fun _ _ => .lastElement) (fun _ _ _ _ _ => .moreElements)
    (fun left shorter => sound.assignment place left (by omega))).mono ?_
  intro used added left arguments _ found clean
  rcases found clean with ⟨rfl, rfl⟩ | ⟨between, few⟩
  · exact .noArguments
  · exact .someArguments between few

theorem reads_routine (sound : rules.Sound source depth) (short : rest.length ≤ depth)
    (role : Role) (opening : Expectation) :
    Reads source place rest (routine rules role opening) (Spells .routine) := by
  refine .expect fun openParen inside next opens => ?_
  refine .bind reads_parameters fun names early left params split takes => ?_
  refine .expect fun closeParen left₂ next₂ closes => ?_
  refine .expect fun openBrace left₃ next₃ opensBody => ?_
  have shorter := length_lt_of_next next₃ (Nat.le_of_lt (length_lt_of_next next₂
    (length_le_of_split split (Nat.le_of_lt (length_lt_of_next next short)))))
  refine .bind (.inFunction (reads_block sound shorter))
    fun used added left₄ body _ ⟨_, does⟩ => .pure ⟨by simp, fun clean => ?_⟩
  simp only [List.append_nil, List.append_eq_nil_iff] at clean
  obtain ⟨tokens, closeBrace, rfl, closesBody, derives⟩ := does clean.2
  simpa using Derives.routine opens (takes clean.1) closes opensBody derives closesBody

theorem reads_strandedOperand (sound : rules.Sound source depth) (short : rest.length < depth)
    (operator : Token) :
    Reads source place rest (strandedOperand rules operator) fun _ _ _ _ => True := by
  unfold strandedOperand
  split
  · exact (sound.assignment place rest short).discard
  · refine .bind (sound.expression place rest short).discard fun used added left _ split _ => ?_
    refine .accept (fun colon tail next _ _ => ?_) fun _ => .pure trivial
    have shorter := length_lt_of_next next (length_le_of_split split (Nat.le_of_lt short))
    exact (sound.conditional place tail shorter).discard
  · exact (sound.conjunction place rest short).discard
  · exact (sound.equality place rest short).discard
  · exact (sound.comparison place rest short).discard
  · exact (sound.comparison place rest short).discard
  · exact (sound.term place rest short).discard
  · exact (sound.term place rest short).discard
  · exact (sound.term place rest short).discard
  · exact (sound.term place rest short).discard
  · exact (sound.factor place rest short).discard
  · exact (sound.unary place rest short).discard

theorem reads_primary (sound : rules.Sound source depth) (short : rest.length ≤ depth) :
    Reads source place rest (primary rules) (Spells (.expr .primary)) := by
  cases rest with
  | nil =>
    refine .peek_nil ?_
    simp only [source.isEnd, needsLeftOperand]
    exact .of_known fun known => .failAt (Source.seen_next known) (by simp)
  | cons token tail =>
    have shorter : tail.length < depth := short
    have atom : ∀ {expr : Expr}, Atom token expr →
        Reads source place (token :: tail) (skip >>= fun _ => pure expr)
          (Spells (.expr .primary)) :=
      fun alone => .skip fun _ => .pure ⟨by simp, fun _ => .atom alone⟩
    refine .peek_cons ?_
    split
    · exact atom (.falsehood ‹_›)
    · exact atom (.truth ‹_›)
    · exact atom (.nil ‹_›)
    · exact atom (.number ‹_›)
    · exact atom (.string ‹_›)
    · next isSuper =>
      refine .skip fun _ => .expect fun dot _ _ isDot => .expect fun name _ _ isName => .pure ?_
      exact ⟨by simp, fun _ => .super isSuper isDot isName⟩
    · exact atom (.self ‹_›)
    · exact atom (.var ‹_›)
    · next isFun =>
      refine .skip fun _ => .bind (reads_routine sound (Nat.le_of_lt shorter) _ _)
        fun used added left routine _ ⟨_, does⟩ => .pure ⟨by simp, fun clean => ?_⟩
      simpa using Derives.lambda isFun (does (by simpa using clean))
    · next opens =>
      refine .skip fun _ => .bind (sound.expression place tail shorter)
        fun used added left inner _ ⟨_, grouped⟩ => ?_
      refine .expect fun closing tail' _ closes => .pure ⟨by simp, fun clean => ?_⟩
      simpa using Derives.grouping opens (grouped (by simpa using clean)) closes
    · split
      · -- The error is added first, so nothing has to be derived.
        refine .skip fun known => .reportAt known (by simp) ?_
        refine .bind (reads_strandedOperand sound shorter token)
          fun used added left _ _ _ => .pure ⟨by simp, fun clean => ?_⟩
        simp at clean
      · exact .of_known fun known => .failAt (Source.seen_next known) (by simp)

theorem reads_call (sound : rules.Sound source depth) (short : rest.length ≤ depth) :
    Reads source place rest (call rules) (Spells (.expr .call)) := by
  refine .bind (reads_primary sound short) fun firsts early left₁ first split ⟨taken, found⟩ => ?_
  refine .grow ⟨by simpa using taken, fun clean => ?_⟩ ?_
  · exact .tighter rfl (by simpa using found (by simpa using clean))
  · intro used added left callee split' kept
    refine .accept (fun opening inside next opens _ => ?_) fun _ => ?_
    · have shorter := length_lt_of_next next
        (length_le_of_split split' (length_le_of_split split short))
      refine .bind (reads_arguments sound shorter) fun given further left' arguments _ spelled => ?_
      refine .expect fun closing tail _ closes => .pure ⟨by simp, fun clean => ?_⟩
      simp only [List.append_nil, List.append_eq_nil_iff] at clean
      simpa using Derives.call (kept.2 (by simp [clean])) opens (spelled clean.2.2) closes
    · refine .accept (fun dot tail next isDot _ => ?_) fun _ => .pure (by simpa using kept)
      refine .expect fun name tail' _ isName => .pure ⟨by simp, fun clean => ?_⟩
      simpa using Derives.get (kept.2 (by simpa using clean)) isDot isName

theorem signs_of_sign? {operator : Token} {apply : Expr → Expr}
    (found : sign? operator = some apply) :
    ∃ op, Signs operator.kind op ∧ apply = .unary op operator := by
  unfold sign? at found
  split at found <;> cases found <;> rename_i isKind <;> rw [isKind] <;>
    exact ⟨_, by constructor, rfl⟩

theorem reads_unary (sound : rules.Sound source depth) (short : rest.length ≤ depth) :
    Reads source place rest (unary rules) (Spells (.expr .unary)) := by
  refine .accept? (fun operator tail apply next signed _ => ?_) fun _ => ?_
  · obtain ⟨op, signs, rfl⟩ := signs_of_sign? signed
    refine .bind (sound.unary place tail (length_lt_of_next next short))
      fun used added left operand _ ⟨_, found⟩ => .pure ⟨by simp, fun clean => ?_⟩
    simpa using Derives.sign signs (found (by simpa using clean))
  · exact (reads_call sound short).mono
      fun _ _ _ _ _ ⟨taken, found⟩ => ⟨taken, fun clean => .tighter rfl (found clean)⟩

theorem reads_factor (sound : rules.Sound source depth) (short : rest.length ≤ depth) :
    Reads source place rest (factor rules) (Spells (.expr .factor)) :=
  reads_leftGrouped .factor rfl fun _ shorter =>
    reads_unary sound (Nat.le_trans shorter short)

theorem reads_term (sound : rules.Sound source depth) (short : rest.length ≤ depth) :
    Reads source place rest (term rules) (Spells (.expr .term)) :=
  reads_leftGrouped .term rfl fun _ shorter =>
    reads_factor sound (Nat.le_trans shorter short)

theorem reads_comparison (sound : rules.Sound source depth) (short : rest.length ≤ depth) :
    Reads source place rest (comparison rules) (Spells (.expr .comparison)) :=
  reads_leftGrouped .comparison rfl fun _ shorter =>
    reads_term sound (Nat.le_trans shorter short)

theorem reads_equality (sound : rules.Sound source depth) (short : rest.length ≤ depth) :
    Reads source place rest (equality rules) (Spells (.expr .equality)) :=
  reads_leftGrouped .equality rfl fun _ shorter =>
    reads_comparison sound (Nat.le_trans shorter short)

theorem reads_conjunction (sound : rules.Sound source depth) (short : rest.length ≤ depth) :
    Reads source place rest (conjunction rules) (Spells (.expr .and)) :=
  reads_leftGrouped .and rfl fun _ shorter =>
    reads_equality sound (Nat.le_trans shorter short)

theorem reads_disjunction (sound : rules.Sound source depth) (short : rest.length ≤ depth) :
    Reads source place rest (disjunction rules) (Spells (.expr .or)) :=
  reads_leftGrouped .or rfl fun _ shorter =>
    reads_conjunction sound (Nat.le_trans shorter short)

theorem reads_conditional (sound : rules.Sound source depth) (short : rest.length ≤ depth) :
    Reads source place rest (conditional rules) (Spells (.expr .conditional)) := by
  refine .bind (reads_disjunction sound short)
    fun conditions early left condition split ⟨taken, tested⟩ => ?_
  refine .accept (fun question tail next isQuestion _ => ?_) fun _ => .pure ?_
  · have shorter := length_lt_of_next next (length_le_of_split split short)
    refine .bind (sound.expression place tail shorter)
      fun yeses further left₂ yes split₂ ⟨_, chosen⟩ => ?_
    refine .expect fun colon left₃ next₃ isColon => ?_
    have shorter₃ := length_lt_of_next next₃ (length_le_of_split split₂ (Nat.le_of_lt shorter))
    refine .bind (sound.conditional place left₃ shorter₃)
      fun noes last left₄ no _ ⟨_, other⟩ => .pure ⟨by simp, fun clean => ?_⟩
    simp only [List.append_nil, List.append_eq_nil_iff] at clean
    simpa using Derives.conditional (tested clean.1) isQuestion (chosen clean.2.1) isColon
      (other clean.2.2)
  · refine ⟨by simpa using taken, fun clean => .tighter rfl ?_⟩
    simpa using tested (by simpa using clean)

/-- A tree that stands for something assignable was spelled as such, so the rule for assignments
applies. -/
theorem reads_assignment (sound : rules.Sound source depth) (short : rest.length ≤ depth) :
    Reads source place rest (assignment rules) (Spells (.expr .assignment)) := by
  refine .bind (reads_conditional sound short)
    fun targets early left target split ⟨taken, found⟩ => ?_
  refine .accept? (fun equals tail kept next chosen known => ?_) fun _ => .pure ?_
  · have isEquals : equals.kind = .equal ∧ kept = equals := by
      split at chosen <;> cases chosen
      exact ⟨‹_›, rfl⟩
    obtain ⟨isEquals, rfl⟩ := isEquals
    have shorter := length_lt_of_next next (length_le_of_split split short)
    refine .bind (sound.assignment place tail shorter)
      fun values further left₂ value split₂ ⟨_, assigned⟩ => ?_
    split
    · next name =>
      refine .pure ⟨by simp, fun clean => ?_⟩
      simp only [List.append_nil, List.append_eq_nil_iff] at clean
      obtain ⟨rfl, isName⟩ := (found clean.1).target
      simpa using Derives.assign isName isEquals (assigned clean.2)
    · next object name =>
      refine .pure ⟨by simp, fun clean => ?_⟩
      simp only [List.append_nil, List.append_eq_nil_iff] at clean
      obtain ⟨objects, dot, rfl, owner, isDot, isName⟩ := (found clean.1).target
      simpa using Derives.set owner isDot isName isEquals (assigned clean.2)
    · exact .reportAt (split₂ ▸ known).after (by simp)
        (.pure ⟨by simp, fun clean => by simp at clean⟩)
  · refine ⟨by simpa using taken, fun clean => .tighter rfl ?_⟩
    simpa using found (by simpa using clean)

theorem reads_expression (sound : rules.Sound source depth) (short : rest.length ≤ depth) :
    Reads source place rest (expression rules) (Spells (.expr .comma)) :=
  reads_leftGrouped .comma rfl fun _ shorter =>
    reads_assignment sound (Nat.le_trans shorter short)

theorem reads_given (sound : rules.Sound source depth) (short : rest.length ≤ depth) :
    Reads source place rest (some <$> expression rules) fun used added _ value => added = [] →
      ∃ expr, value = some expr ∧ Derives (.expr .comma) used expr :=
  .map ((reads_expression sound short).mono
    fun _ _ _ expr _ ⟨_, found⟩ clean => ⟨expr, rfl, found clean⟩)

theorem reads_optional (sound : rules.Sound source depth) (short : rest.length ≤ depth)
    (condition : Prop) [Decidable condition] :
    Reads source place rest (if condition then pure none else some <$> expression rules)
      fun used added _ value => added = [] → Derives .optional used value := by
  split
  · exact .pure fun _ => .leftOut
  · refine (reads_given sound short).mono fun used added left value _ found clean => ?_
    obtain ⟨expr, rfl, derives⟩ := found clean
    exact .given derives

theorem reads_condition (sound : rules.Sound source depth) (short : rest.length ≤ depth)
    (condition : Prop) [Decidable condition] :
    Reads source place rest
      (if condition then pure (.literal (.bool true)) else expression rules)
      fun used added _ expr => added = [] →
        ∃ tested, Derives .optional used tested ∧ expr = tested.getD (.literal (.bool true)) := by
  split
  · exact .pure fun _ => ⟨none, .leftOut, rfl⟩
  · exact (reads_expression sound short).mono
      fun _ _ _ expr _ ⟨_, found⟩ clean => ⟨some expr, .given (found clean), rfl⟩

theorem reads_expressionStatement (sound : rules.Sound source depth) (short : rest.length ≤ depth) :
    Reads source place rest (expressionStatement rules) fun used added _ stmt => used ≠ [] ∧
      (added = [] → ∃ tokens semicolon value, used = tokens ++ [semicolon] ∧
        stmt = .expression value ∧ Derives (.expr .comma) tokens value ∧
        semicolon.kind = .semicolon) := by
  refine .bind (reads_expression sound short) fun tokens added left value _ ⟨_, found⟩ => ?_
  refine .expect fun semicolon tail _ ends => .pure ⟨by simp, fun clean => ?_⟩
  exact ⟨tokens, semicolon, value, by simp, rfl, found (by simpa using clean), ends⟩

theorem reads_printStatement (sound : rules.Sound source depth) (short : rest.length ≤ depth)
    {keyword : Token} (isPrint : keyword.kind = .kwPrint) :
    Reads source place rest (printStatement rules) (SpellsAfter place keyword) := by
  refine .bind (reads_expression sound short) fun tokens added left value _ ⟨_, found⟩ => ?_
  refine .expect fun semicolon tail _ ends => .pure fun clean => ?_
  simpa using Derives.print isPrint (found (by simpa using clean)) ends

theorem reads_letDeclaration (sound : rules.Sound source depth) (short : rest.length ≤ depth) :
    Reads source place rest (letDeclaration rules) fun used added _ stmt => added = [] →
      ∀ keyword : Token, keyword.kind = .kwLet → Derives .definition (keyword :: used) stmt := by
  refine .expect fun name left next isName => ?_
  refine .accept (fun equals tail next' isEquals _ => ?_) fun _ => ?_
  · have shorter := length_lt_of_next next' (Nat.le_of_lt (length_lt_of_next next short))
    refine .bind (reads_given sound (Nat.le_of_lt shorter)) fun used added left' value _ found => ?_
    refine .expect fun semicolon tail' _ ends => .pure fun clean keyword isLet => ?_
    obtain ⟨expr, rfl, derives⟩ := found (by simpa using clean)
    simpa using Derives.defineAs isLet isName isEquals derives ends
  · refine .expect fun semicolon tail' _ ends => .pure fun _ keyword isLet => ?_
    exact .define isLet isName ends

theorem reads_forInitializer (sound : rules.Sound source depth) (short : rest.length ≤ depth) :
    Reads source place rest (forInitializer rules) fun used added _ first => added = [] →
      Derives .initializer used first := by
  refine .accept (fun semicolon tail _ ends _ => .pure fun _ => .noInitializer ends) fun _ => ?_
  refine .accept (fun keyword tail next isLet _ => ?_) fun _ => ?_
  · refine .bind (reads_letDeclaration sound (Nat.le_of_lt (length_lt_of_next next short)))
      fun used added left stmt _ found => .pure fun clean => ?_
    simpa using Derives.definitionInitializer (found (by simpa using clean) keyword isLet)
  · refine .bind (reads_expressionStatement sound short)
      fun used added left stmt _ ⟨_, found⟩ => .pure fun clean => ?_
    obtain ⟨tokens, semicolon, value, rfl, rfl, evaluated, ends⟩ := found (by simpa using clean)
    simpa using Derives.expressionInitializer evaluated ends

theorem reads_forStatement (sound : rules.Sound source depth) (short : rest.length ≤ depth)
    {keyword : Token} (isFor : keyword.kind = .kwFor) :
    Reads source place rest (forStatement rules) (SpellsAfter place keyword) := by
  refine .expect fun opening left₁ next₁ opens => ?_
  have short₁ := Nat.le_of_lt (length_lt_of_next next₁ short)
  refine .bind (reads_forInitializer sound short₁) fun firsts early left₂ first split₂ starts => ?_
  have short₂ := length_le_of_split split₂ short₁
  refine .check (by decide) ?_
  rw [ite_bind]
  refine .bind (reads_condition sound short₂ _)
    fun conditions later left₃ condition split₃ tested => ?_
  refine .expect fun semicolon left₄ next₄ ends => ?_
  have short₄ := Nat.le_of_lt (length_lt_of_next next₄ (length_le_of_split split₃ short₂))
  refine .check (by decide) ?_
  rw [ite_bind]
  refine .bind (reads_optional sound short₄ _)
    fun increments late left₅ increment split₅ advances => ?_
  refine .expect fun closing left₆ next₆ closes => ?_
  have short₆ := length_lt_of_next next₆ (length_le_of_split split₅ short₄)
  refine .bind (.inLoop (sound.statement place.loopBody left₆ short₆))
    fun bodies last left₇ body _ ⟨_, repeated⟩ => ?_
  have whole : early = [] → later = [] → late = [] → last = [] → ∃ tested,
      condition = tested.getD (.literal (.bool true)) ∧
        Derives (.statement place (headIs .kwElse left₇))
          (keyword :: opening :: firsts ++ conditions ++ semicolon :: increments ++
            closing :: bodies) (forTree first tested increment body) := by
    rintro rfl rfl rfl rfl
    obtain ⟨tested, derives, same⟩ := tested rfl
    exact ⟨tested, same, .forLoop isFor opens (starts rfl) derives ends (advances rfl) closes
      (repeated rfl)⟩
  split <;>
  · refine .pure fun clean => ?_
    simp only [List.append_nil, List.append_eq_nil_iff] at clean
    obtain ⟨tested, rfl, derives⟩ := whole clean.1 clean.2.1 clean.2.2.1 clean.2.2.2
    simpa [forTree] using derives

theorem reads_ifStatement (sound : rules.Sound source depth) (short : rest.length ≤ depth)
    {keyword : Token} (isIf : keyword.kind = .kwIf) :
    Reads source place rest (ifStatement rules) (SpellsAfter place keyword) := by
  refine .expect fun opening left₁ next₁ opens => ?_
  have short₁ := Nat.le_of_lt (length_lt_of_next next₁ short)
  refine .bind (reads_expression sound short₁)
    fun conditions early left₂ condition split₂ ⟨_, tested⟩ => ?_
  refine .expect fun closing left₃ next₃ closes => ?_
  have short₃ := length_lt_of_next next₃ (length_le_of_split split₂ short₁)
  refine .bind (sound.statement place left₃ short₃)
    fun yeses later left₄ yes split₄ ⟨_, chosen⟩ => ?_
  have short₄ := length_le_of_split split₄ (Nat.le_of_lt short₃)
  refine .accept (fun otherwise left₅ next₅ isElse _ => ?_) fun alone => ?_
  · have short₅ := length_lt_of_next next₅ short₄
    have otherwise_reads : Reads source place left₅ (some <$> rules.statement)
        fun used added left no => added = [] → ∃ stmt, no = some stmt ∧
          Derives (.statement place (headIs .kwElse left)) used stmt :=
      .map ((sound.statement place left₅ short₅).mono
        fun _ _ _ stmt _ ⟨_, found⟩ clean => ⟨stmt, rfl, found clean⟩)
    refine .bind otherwise_reads
      fun noes late left₆ no _ other => .pure fun clean => ?_
    simp only [List.append_nil, List.append_eq_nil_iff] at clean
    obtain ⟨stmt, rfl, derives⟩ := other clean.2.2
    have closed := chosen clean.2.1
    rw [next₅, headIs_cons, decide_eq_true isElse] at closed
    simpa using Derives.branch isIf opens (tested clean.1) closes closed isElse derives
  · refine .pure fun clean => ?_
    simp only [List.append_nil, List.append_eq_nil_iff] at clean
    have opened := chosen clean.2
    rw [alone] at opened ⊢
    simpa using Derives.branchAlone isIf opens (tested clean.1) closes opened

theorem reads_whileStatement (sound : rules.Sound source depth) (short : rest.length ≤ depth)
    {keyword : Token} (isWhile : keyword.kind = .kwWhile) :
    Reads source place rest (whileStatement rules) (SpellsAfter place keyword) := by
  refine .expect fun opening left₁ next₁ opens => ?_
  have short₁ := Nat.le_of_lt (length_lt_of_next next₁ short)
  refine .bind (reads_expression sound short₁)
    fun conditions early left₂ condition split₂ ⟨_, tested⟩ => ?_
  refine .expect fun closing left₃ next₃ closes => ?_
  have short₃ := length_lt_of_next next₃ (length_le_of_split split₂ short₁)
  refine .bind (.inLoop (sound.statement place.loopBody left₃ short₃))
    fun bodies late left₄ body _ ⟨_, repeated⟩ => .pure fun clean => ?_
  simp only [List.append_nil, List.append_eq_nil_iff] at clean
  simpa using Derives.whileLoop isWhile opens (tested clean.1) closes (repeated clean.2)

theorem reads_returnStatement (sound : rules.Sound source depth) (short : rest.length ≤ depth)
    {keyword : Token} (known : source.Seen rest keyword) (isReturn : keyword.kind = .kwReturn) :
    Reads source place rest (returnStatement rules keyword) (SpellsAfter place keyword) := by
  refine .get fun state samePlace => ?_
  have value_then : Reads source place rest
      (do
        let value ← if ← check .semicolon then pure none else some <$> expression rules
        let _ ← expect .semicolon .afterReturned
        return Stmt.giveBack keyword value)
      fun used added left stmt => place.inFunction = true →
        SpellsAfter place keyword used added left stmt := by
    refine .check (by decide) ?_
    rw [ite_bind]
    refine .bind (reads_optional sound short _) fun tokens added left value _ found => ?_
    refine .expect fun semicolon tail _ ends => .pure fun allowed clean => ?_
    simpa using Derives.giveBack isReturn allowed (found (by simpa using clean)) ends
  have counts : place.inFunction = decide (0 < state.functionDepth) := by rw [← samePlace]; rfl
  by_cases outside : state.functionDepth = 0
  · simp only [outside, if_true]
    exact .reportAt known (by simp) (value_then.mono fun _ _ _ _ _ _ clean => nomatch clean)
  · simp only [outside, if_false]
    refine value_then.mono fun used added left stmt _ found => found ?_
    rw [counts]
    exact decide_eq_true (Nat.pos_of_ne_zero outside)

theorem reads_jumpStatement {keyword : Token} (known : source.Seen rest keyword)
    (isJump : keyword.kind = .kwBreak ∨ keyword.kind = .kwContinue) :
    Reads source place rest (jumpStatement keyword) (SpellsAfter place keyword) := by
  refine .get fun state samePlace => ?_
  have semicolon_then : Reads source place rest
      (do
        let _ ← expect .semicolon (.afterJump keyword.lexeme)
        return if keyword.kind = .kwBreak then .breakLoop keyword else .continueLoop keyword)
      fun used added left stmt => place.inLoop = true →
        SpellsAfter place keyword used added left stmt := by
    refine .expect fun semicolon tail _ ends => .pure fun allowed _ => ?_
    rcases isJump with isBreak | isContinue
    · simpa [isBreak] using Derives.breakLoop isBreak allowed ends
    · simpa [isContinue] using Derives.continueLoop isContinue allowed ends
  have counts : place.inLoop = decide (0 < state.loopDepth) := by rw [← samePlace]; rfl
  by_cases outside : state.loopDepth = 0
  · simp only [outside, if_true]
    exact .reportAt known (by simp) (semicolon_then.mono fun _ _ _ _ _ _ clean => nomatch clean)
  · simp only [outside, if_false]
    refine semicolon_then.mono fun used added left stmt _ found => found ?_
    rw [counts]
    exact decide_eq_true (Nat.pos_of_ne_zero outside)

theorem reads_afterKeyword {keyword : Token} {tail : List Token} {parser : Parser Stmt}
    (reads : source.Seen tail keyword →
      Reads source place tail parser (SpellsAfter place keyword)) :
    Reads source place (keyword :: tail) (skip >>= fun _ => parser) (SpellsStatement place) :=
  .skip fun known => (reads known).mono fun _ _ _ _ _ found => ⟨by simp, found⟩

theorem reads_statement (sound : rules.Sound source depth) (short : rest.length ≤ depth) :
    Reads source place rest (statement rules) (SpellsStatement place) := by
  have otherwise : Reads source place rest (expressionStatement rules) (SpellsStatement place) := by
    refine (reads_expressionStatement sound short).mono
      fun used added left stmt _ ⟨taken, found⟩ => ⟨taken, fun clean => ?_⟩
    obtain ⟨tokens, semicolon, value, rfl, rfl, evaluated, ends⟩ := found clean
    exact .expression evaluated ends
  cases rest with
  | nil =>
    refine .peek_nil ?_
    simp only [source.isEnd]
    exact otherwise
  | cons token tail =>
    have shorter : tail.length < depth := short
    have short' := Nat.le_of_lt shorter
    refine .peek_cons ?_
    split
    · exact reads_afterKeyword fun _ => reads_forStatement sound short' ‹_›
    · exact reads_afterKeyword fun _ => reads_ifStatement sound short' ‹_›
    · exact reads_afterKeyword fun _ => reads_printStatement sound short' ‹_›
    · exact reads_afterKeyword fun known => reads_returnStatement sound short' known ‹_›
    · exact reads_afterKeyword fun _ => reads_whileStatement sound short' ‹_›
    · exact reads_afterKeyword fun known => reads_jumpStatement known (.inl ‹_›)
    · exact reads_afterKeyword fun known => reads_jumpStatement known (.inr ‹_›)
    · next opens =>
      refine .skip fun _ => .bind (reads_block sound shorter)
        fun used added left body _ ⟨_, found⟩ => .pure ⟨by simp, fun clean => ?_⟩
      obtain ⟨tokens, closing, rfl, closes, inside⟩ := found (by simpa using clean)
      simpa using Derives.braces opens inside closes
    · exact otherwise

theorem reads_namedRoutine (sound : rules.Sound source depth) (short : rest.length ≤ depth)
    (role : Role) :
    Reads source place rest (namedRoutine rules role) fun used added _ found => used ≠ [] ∧
      (added = [] → ∃ tokens, used = found.1 :: tokens ∧ found.1.kind = .identifier ∧
        Derives .routine tokens found.2) := by
  refine .expect fun name tail next isName => ?_
  refine .bind (reads_routine sound (Nat.le_of_lt (length_lt_of_next next short)) _ _)
    fun used added left routine _ ⟨_, does⟩ => .pure ⟨by simp, fun clean => ?_⟩
  exact ⟨used, by simp, isName, does (by simpa using clean)⟩

theorem reads_methods (sound : rules.Sound source depth) (short : rest.length ≤ depth) :
    Reads source place rest (collect (untilBrace (namedRoutine rules .method)))
      fun used added _ methods => added = [] → Derives .methods used methods := by
  refine .collect_untilBrace _
    (fun left shorter => reads_namedRoutine sound (Nat.le_trans shorter short) _)
    (fun _ _ => .noMethods) ?_
  intro used added left found more further left' methods ⟨_, spells⟩ others clean
  rw [List.append_eq_nil_iff] at clean
  obtain ⟨tokens, rfl, isName, does⟩ := spells clean.1
  exact .moreMethods isName does (others clean.2)

theorem reads_classDeclaration (sound : rules.Sound source depth) (short : rest.length ≤ depth)
    {keyword : Token} (isClass : keyword.kind = .kwClass) :
    Reads source place rest (classDeclaration rules) fun used added _ stmt => added = [] →
      Derives (.declaration place) (keyword :: used) stmt := by
  refine .expect fun name left₁ next₁ isName => ?_
  have short₁ := Nat.le_of_lt (length_lt_of_next next₁ short)
  have body_then : ∀ {left above : List Token} {superclass : Option Token},
      left.length ≤ depth → Superclass above superclass →
      Reads source place left
        (do
          let _ ← expect .leftBrace .beforeClassBody
          let methods ← collect (untilBrace (namedRoutine rules .method))
          let _ ← expect .rightBrace .afterClassBody
          return Stmt.classDecl name superclass methods)
        fun used added _ stmt => added = [] →
          Derives (.declaration place) (keyword :: name :: above ++ used) stmt := by
    intro left above superclass short extended
    refine .expect fun opening left₂ next₂ opens => ?_
    refine .bind (reads_methods sound (Nat.le_of_lt (length_lt_of_next next₂ short)))
      fun tokens added left₃ methods _ inside => ?_
    refine .expect fun closing left₄ _ closes => .pure fun clean => ?_
    have members := inside (by simpa using clean)
    simpa using Derives.classDecl isClass isName extended opens members closes
  refine .accept (fun less tail next₂ isLess _ => ?_) fun _ => body_then short₁ .none
  have superclass_reads : Reads source place tail (some <$> expect .identifier .superclassName)
      fun used added _ superclass => added = [] ∧ Superclass (less :: used) superclass := by
    refine .map ((reads_expect .identifier .superclassName).mono ?_)
    rintro used added left above _ ⟨rfl, rfl, isName⟩
    exact ⟨rfl, .some isLess isName⟩
  refine .bind superclass_reads ?_
  rintro used added left superclass split ⟨rfl, extended⟩
  have shorter := length_le_of_split split (Nat.le_of_lt (length_lt_of_next next₂ short₁))
  exact (body_then shorter extended).mono fun _ _ _ _ _ found clean => by simpa using found clean

/-- A `fun` before a name declares a function; a statement may begin with any other `fun`. -/
theorem reads_declared (sound : rules.Sound source depth) (short : rest.length ≤ depth) :
    Reads source place rest (declared rules) (Spells (.declaration place)) := by
  have otherwise : Reads source place rest (statement rules) (Spells (.declaration place)) :=
    (reads_statement sound short).mono fun _ _ _ _ _ ⟨taken, found⟩ =>
      ⟨taken, fun clean => .statement (found clean).opened⟩
  cases rest with
  | nil => exact .look (fun state start => run_nextKinds_nil start.sameRest) otherwise
  | cons token tail =>
    have short' : tail.length ≤ depth := Nat.le_of_lt short
    refine .look (fun state start => run_nextKinds_cons start.sameRest) ?_
    split
    · next kinds =>
      have isClass : token.kind = .kwClass := (Prod.mk.inj kinds).1
      exact .skip fun _ => (reads_classDeclaration sound short' isClass).mono
        fun _ _ _ _ _ found => ⟨by simp, found⟩
    · next kinds =>
      have isFun : token.kind = .kwFun := (Prod.mk.inj kinds).1
      refine .skip fun _ => .bind (reads_namedRoutine sound short' _)
        fun used added left found _ ⟨_, named⟩ => .pure ⟨by simp, fun clean => ?_⟩
      obtain ⟨tokens, rfl, isName, does⟩ := named (by simpa using clean)
      simpa using Derives.function isFun isName does
    · next kinds =>
      have isLet : token.kind = .kwLet := (Prod.mk.inj kinds).1
      exact .skip fun _ => (reads_letDeclaration sound short').mono
        fun _ _ _ _ _ found => ⟨by simp, fun clean => .definition (found clean token isLet)⟩
    · exact otherwise

/-- Recovery passes the token at fault, and nothing it passes comes back. -/
theorem synchronize_suffix (tokens : List Token) :
    ∃ passed, tokens = passed ++ synchronize tokens ∧ (passed = [] → tokens = []) := by
  have skipTo_suffix : ∀ (tokens : List Token) (last : Token),
      ∃ passed, tokens = passed ++ skipTo last tokens := by
    intro tokens
    induction tokens with
    | nil => exact fun _ => ⟨[], rfl⟩
    | cons token tail ih =>
      intro last
      unfold skipTo
      split
      · exact ⟨[], rfl⟩
      · obtain ⟨passed, whole⟩ := ih token
        exact ⟨token :: passed, congrArg (token :: ·) whole⟩
  cases tokens with
  | nil => exact ⟨[], rfl, fun _ => rfl⟩
  | cons token tail =>
    obtain ⟨passed, whole⟩ := skipTo_suffix tail token
    exact ⟨token :: passed, congrArg (token :: ·) whole, fun absurd => nomatch absurd⟩

theorem reads_declaration (sound : rules.Sound source depth) (short : rest.length ≤ depth) :
    Reads source place rest (declaration rules) (SpellsDeclaration place) := by
  intro state start
  have ends := reads_declared sound short state start
  unfold declaration
  split <;> rename_i result <;> rw [result] at ends
  · next stmt after =>
    obtain ⟨used, added, moved, taken, found⟩ := ends
    refine ⟨used, added, moved, fun nothing => absurd nothing taken, ?_⟩
    rw [moved.errors, List.length_append]
    by_cases clean : added = []
    · subst clean
      simpa using found rfl
    · have counted : added.length ≠ 0 := by simpa using clean
      simpa [counted] using clean
  · next error after =>
    obtain ⟨used, added, moved, blames⟩ := ends
    obtain ⟨passed, whole, moves⟩ := synchronize_suffix after.rest
    have passes : ∀ other, source.Blames after.rest other →
        source.Blames (synchronize after.rest) other :=
      fun other ⟨seen, proper⟩ => ⟨(whole ▸ seen).after, proper⟩
    refine ⟨used ++ passed, added ++ [error], ?_, ?_, by simp⟩
    · refine ⟨?_, moved.ending, ?_, moved.loopDepth, moved.functionDepth, ?_⟩
      · rw [moved.rest, List.append_assoc, ← whole]
      · rw [moved.errors, List.append_assoc]
      · intro other member
        rcases List.mem_append.mp member with old | new
        · exact passes other (moved.blamed other old)
        · exact passes other (List.mem_singleton.mp new ▸ blames)
    · intro nothing
      rw [List.append_eq_nil_iff] at nothing
      have empty := moves nothing.2
      simp [empty, synchronize]

/-- With one level more, the rules go on to do what the rules below them do. -/
theorem Rules.Sound.above (sound : rules.Sound source depth) :
    rules.above.Sound source (depth + 1) where
  expression _ _ short := reads_expression sound (Nat.le_of_lt_succ short)
  assignment _ _ short := reads_assignment sound (Nat.le_of_lt_succ short)
  conditional _ _ short := reads_conditional sound (Nat.le_of_lt_succ short)
  conjunction _ _ short := reads_conjunction sound (Nat.le_of_lt_succ short)
  equality _ _ short := reads_equality sound (Nat.le_of_lt_succ short)
  comparison _ _ short := reads_comparison sound (Nat.le_of_lt_succ short)
  term _ _ short := reads_term sound (Nat.le_of_lt_succ short)
  factor _ _ short := reads_factor sound (Nat.le_of_lt_succ short)
  unary _ _ short := reads_unary sound (Nat.le_of_lt_succ short)
  statement _ _ short := reads_statement sound (Nat.le_of_lt_succ short)
  declaration _ _ short := reads_declaration sound (Nat.le_of_lt_succ short)

/-- Before fewer tokens than there are levels, no rule runs out of levels. -/
theorem rules_sound (source : Source) (depth : Nat) : (Parser.rules depth).Sound source depth := by
  induction depth with
  | zero => constructor <;> exact fun _ _ short => absurd short (Nat.not_lt_zero _)
  | succ depth ih => exact ih.above

end Lox.Parser
