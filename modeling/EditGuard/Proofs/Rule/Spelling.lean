import EditGuard.Proofs.Rule.Positions
import EditGuard.Proofs.Variable.Naming

/-!
# Names in rules

The variables of a rule have the names of lexemes of its text, and the lexer folds names.
-/

namespace EditGuard.Rule

open Grammar

/-! ## Names of a tree -/

/-- A part of an expression is a variable of a name. -/
inductive Mentions {α : Type} : Expr α → String → Prop
  | here {m x} : Mentions (.var m x) x
  | inside {e d x} (member : d ∈ e.operands) (mentions : Mentions d x) : Mentions e x

theorem mentions_of_within {e : Rule} {span : Span} {x : String}
    (inside : Within e (.var span x)) : Mentions e x := by
  generalize isVar : (Expr.var span x : Rule) = d at inside
  induction inside with
  | root =>
      subst isVar
      exact .here
  | part member _ ih => exact .inside member (ih isVar)

theorem Mentions.map {α β : Type} {e : Expr α} {x : String} (mentions : Mentions e x)
    (f : α → β) : Mentions (e.map f) x := by
  induction mentions with
  | here => exact .here
  | inside member _ ih =>
      refine .inside ?_ ih
      rw [Expr.operands_map]
      exact List.mem_map_of_mem member

/-! ## Names in derivations -/

/-- The names of trees are among the lexemes of a row, and so is the rest of the row. -/
structure Spelled (ws rest : List Lexeme) (es : List Tree) : Prop where
  rest : rest ⊆ ws
  names : ∀ e ∈ es, ∀ x, Mentions e x → .name x ∈ ws

namespace Spelled

variable {ws vs rest : List Lexeme} {es ds : List Tree} {w : Lexeme} {e : Tree}

theorem nil : Spelled rest rest [] :=
  ⟨List.Subset.refl _, nofun⟩

theorem cons (spelled : Spelled ws rest es) : Spelled (w :: ws) rest es where
  rest := List.subset_cons_of_subset _ spelled.rest
  names e mem x mentions := List.mem_cons_of_mem _ (spelled.names e mem x mentions)

/-- A lexeme of the rest is passed. -/
theorem pass (spelled : Spelled ws (w :: rest) es) : Spelled ws rest es :=
  ⟨fun _ mem => spelled.rest (List.mem_cons_of_mem _ mem), spelled.names⟩

theorem append (first : Spelled ws vs es) (second : Spelled vs rest ds) :
    Spelled ws rest (es ++ ds) where
  rest := List.Subset.trans second.rest first.rest
  names e mem x mentions := by
    rcases List.mem_append.mp mem with inside | inside
    · exact first.names e inside x mentions
    · exact first.rest (second.names e inside x mentions)

/-- A node that is no variable has the names of its operands. -/
theorem node (spelled : Spelled ws rest es) (operands : e.operands = es)
    (notVar : ∀ x, e ≠ .var () x) : Spelled ws rest [e] where
  rest := spelled.rest
  names := by
    intro d mem x mentions
    cases List.mem_singleton.mp mem
    cases mentions with
    | here => exact absurd rfl (notVar x)
    | inside member mentions =>
        rw [operands] at member
        exact spelled.names _ member x mentions

theorem var (x : String) : Spelled (.name x :: rest) rest [.var () x] where
  rest := List.subset_cons_self _ _
  names := by
    intro d mem y mentions
    cases List.mem_singleton.mp mem
    cases mentions with
    | here => exact List.mem_cons_self
    | inside member => cases member

/-- Statements as one tree have the names of the statements. -/
theorem block (spelled : Spelled ws rest es) : Spelled ws rest [block es] := by
  rcases es with _ | ⟨first, _ | ⟨second, more⟩⟩
  · exact spelled.node rfl nofun
  · exact spelled
  · exact spelled.node rfl nofun

end Spelled

mutual

theorem spelled_of_derives {c : Category} {ws rest : List Lexeme} {e : Tree}
    (derives : Derives c ws rest e) : Spelled ws rest [e] := by
  match derives with
  | .assign value => exact (spelled_of_derives value).cons.cons.node rfl nofun
  | .append value => exact (spelled_of_derives value).cons.cons.cons.cons.node rfl nofun
  | .assignItem position value =>
      have parts := (spelled_of_derives position).pass.pass.append (spelled_of_derives value)
      exact parts.cons.cons.node rfl nofun
  | .unassigned conditional => exact spelled_of_derives conditional
  | .ifThen condition yes =>
      have parts := (spelled_of_derives condition).pass.append (spelled_of_derives yes).pass
      exact parts.cons.node rfl nofun
  | .ifThenElse condition yes no =>
      have parts := (spelled_of_derives condition).pass.append
        ((spelled_of_derives yes).pass.append (spelled_of_derives no).pass)
      exact parts.cons.node rfl nofun
  | .choice condition yes no =>
      have parts := (spelled_of_derives condition).pass.append
        ((spelled_of_derives yes).pass.append (spelled_of_derives no))
      exact parts.node rfl nofun
  | .unconditional operation => exact spelled_of_derives operation
  | @Derives.operation _ _ op _ _ _ _ _ _ left right =>
      have parts := (spelled_of_derives left).pass.append (spelled_of_derives right)
      cases op <;> exact parts.node rfl nofun
  | .operand operand => exact spelled_of_derives operand
  | .not operand => exact (spelled_of_derives operand).cons.node rfl nofun
  | .affirmed keyword => exact spelled_of_derives keyword
  | .keyword _ left right =>
      have parts := (spelled_of_derives left).pass.append (spelled_of_derives right)
      exact parts.node rfl nofun
  | .unrelated signed => exact spelled_of_derives signed
  | .sign _ operand => exact (spelled_of_derives operand).cons.node rfl nofun
  | .unsigned indexed => exact spelled_of_derives indexed
  | .index base position =>
      have parts := (spelled_of_derives base).pass.append (spelled_of_derives position).pass
      exact parts.node rfl nofun
  | .whole primary => exact spelled_of_derives primary
  | .literal _ => exact Spelled.nil.cons.node rfl nofun
  | .callNothing => exact Spelled.nil.cons.cons.cons.node rfl nofun
  | .call args => exact (spelled_of_items args).pass.cons.cons.node rfl nofun
  | .var _ => exact .var _
  | .parentheses body _ => exact (spelled_of_statements body).pass.cons.block
  | .emptyList => exact Spelled.nil.cons.cons.node rfl nofun
  | .list members => exact (spelled_of_items members).pass.cons.node rfl nofun
termination_by structural derives

theorem spelled_of_items {ws rest : List Lexeme} {es : List Tree}
    (derives : DerivesItems ws rest es) : Spelled ws rest es := by
  match derives with
  | .last item => exact spelled_of_derives item
  | .comma item more => exact (spelled_of_derives item).pass.append (spelled_of_items more)
termination_by structural derives

theorem spelled_of_statements {ws rest : List Lexeme} {es : List Tree}
    (derives : DerivesStatements ws rest es) : Spelled ws rest es := by
  match derives with
  | .nothing => exact .nil
  | .skip more => exact (spelled_of_statements more).cons
  | .last statement => exact spelled_of_derives statement
  | .next statement more =>
      exact (spelled_of_derives statement).pass.append (spelled_of_statements more)
termination_by structural derives

end

/-- The variables of a rule have names among its lexemes. -/
theorem mem_lexemes_of_within {ts : Tokens} {rule : Rule} (parsed : ts.parse = .ok rule)
    {span : Span} {x : String} (inside : Within rule (.var span x)) :
    Lexeme.name x ∈ lexemes ts.tokens := by
  obtain ⟨es, derives, same⟩ := Parser.derivesRule_of_parse parsed
  have mentions := (mentions_of_within inside).map fun _ => ()
  exact (spelled_of_statements derives).block.names _ (List.mem_singleton.mpr same) x mentions

/-! ## Names that are read -/

namespace Lexeme

theorem wholeNumber?_ne_name {base : Nat} {body : List Char} {x : String} :
    wholeNumber? base body ≠ some (.name x) := by
  unfold wholeNumber?
  split
  · exact nofun
  · dsimp only
    split <;> exact nofun

theorem fraction?_ne_name {whole fraction : List Char} {x : String} :
    fraction? whole fraction ≠ some (.name x) := by
  unfold fraction?
  split <;> exact nofun

theorem number?_ne_name {cs : List Char} {x : String} {n : Nat} :
    number? cs ≠ some (.name x, n) := by
  intro found
  have ofMap {value : Option Lexeme} {length : Nat} (none : value ≠ some (.name x)) :
      value.map (·, length) ≠ some (.name x, n) := by
    intro same
    obtain ⟨lexeme, isValue, pair⟩ := Option.map_eq_some_iff.mp same
    cases pair
    exact none isValue
  rw [number?_eq, numberAtHead?] at found
  split at found
  · cases found
  split at found
  · cases found
  split at found
  · split at found
    · exact ofMap fraction?_ne_name found
    · cases found
  · split at found
    · exact ofMap wholeNumber?_ne_name found
    · exact ofMap wholeNumber?_ne_name found

theorem fold_of_wordOrSign {cs : List Char} {x : String} {n : Nat}
    (found : wordOrSign cs = .ok (.name x, n)) : Variable.fold x = x := by
  unfold wordOrSign at found
  dsimp only at found
  split at found
  · split at found <;> cases found
  · have word := congrArg Prod.fst (Except.ok.inj found)
    unfold ofWord at word
    dsimp only at word
    split at word
    · cases word
    · cases word
      apply String.toList_inj.mp
      rw [Variable.fold, String.toList_map, String.toList_ofList, List.map_map]
      exact congrArg (List.map · _) (funext Variable.toLower_toLower)

/-- A name that is read is folded. -/
theorem fold_of_read {first : Char} {cs : List Char} {x : String} {n : Nat}
    (found : read first cs = .ok (.name x, n)) : Variable.fold x = x := by
  by_cases quoted : IsQuote first
  · obtain ⟨written, more, chars, -, -, -, isText⟩ := read_eq_ok_of_quoted quoted found
    cases isText
  have notText : ¬(first = '"' ∨ first = '\'') := quoted
  unfold read at found
  simp only [if_neg notText] at found
  split at found
  · cases found
  iterate 6
    split at found
    · cases found
  split at found
  · split at found
    · rename_i isNumber
      cases found
      exact absurd isNumber number?_ne_name
    · exact fold_of_wordOrSign found
  · exact fold_of_wordOrSign found

end Lexeme

/-- The names among the lexemes of a rule are folded. -/
theorem fold_of_mem_lexemes {l : Layout} {m : Mark} {ts : Tokens} (scans : l.Scans m ts)
    {x : String} (mem : Lexeme.name x ∈ lexemes ts.tokens) : Variable.fold x = x := by
  induction scans with
  | last => cases mem
  | word _ read _ ih =>
      rcases List.mem_cons.mp mem with isFirst | inside
      · dsimp only at isFirst
        rw [← isFirst] at read
        exact Lexeme.fold_of_read read
      · exact ih inside

/-- The variables of a rule that is read from a text have folded names. -/
theorem fold_of_parse {source : Source} {rule : Rule} (parsed : source.parse = .ok rule)
    {span : Span} {x : String} (inside : Within rule (.var span x)) : Variable.fold x = x := by
  obtain ⟨ts, read, parsed⟩ := exists_of_bind_eq_ok parsed
  obtain ⟨l, -, scans⟩ := Source.exists_layout read
  exact fold_of_mem_lexemes scans (mem_lexemes_of_within parsed inside)

end EditGuard.Rule
