/-
# Compile.Assembly -- the statement around a base query

The clauses of a statement follow each other on lines of their own:

    SELECT columns                  when every column is mapped
    base query
    WHERE conditions                when every column is mapped
    commands before grouping
    HAVING conditions               otherwise
    ORDER BY keys                   unless rows are counted
    LIMIT count OFFSET count        unless rows are counted

Where columns are not mapped, a projection wraps the whole in a statement that
selects the projected columns from it; counting always wraps.  The header commands
come first in the script, each as a statement of its own.

Only conditions bind values, so the parameters of the conditions are those of the
statement.
-/
import PlanCompiler.Plan.Query
import PlanCompiler.Sql.Alias
import PlanCompiler.Text.Blank
import PlanCompiler.Compile.Environment
import PlanCompiler.Compile.Order

namespace PlanCompiler

set_option autoImplicit false

/-- What the plan adds to the base query. -/
structure Clauses where
  conditions : List Sql.Expression
  order : List SortKey
  limit : Sql.Limit
  selected : List String

/-- What a statement returns. -/
inductive Output
  | rows
  | count
deriving DecidableEq, Repr

/-- A statement with the texts it was put together from. -/
structure Assembly where
  parameters : Sql.Parameters
  selectSql : String
  filterSql : String
  orderBySql : String
  limitSql : String
  /-- The header commands, each without its terminator. -/
  headerSql : List String
  /-- The statement without its headers. -/
  statementSql : String

namespace Assembly

/-! ## Texts of the caller -/

def isTerminator (c : Char) : Bool :=
  c == ';' || Text.isBlank c

/-- A text without surrounding blanks and without the semicolons that end it. -/
def trimStatement (sql : String) : String :=
  .ofList (Text.dropEndWhile isTerminator (Text.trim sql.toList))

/-- The header commands that are not empty. -/
def headers (commands : List Command) : List String :=
  ((Command.inRegion .header commands).map trimStatement).filter fun text => !text.isEmpty

/-! ## Clauses -/

/-- The fields of the generated select list: the selected ones, or else all mapped ones, or else
all declared ones. -/
def listedFields (env : Environment) (selected : List String) : List String :=
  if !selected.isEmpty then selected
  else if !env.mappings.isEmpty then env.mappings.names
  else env.fields.names

def selectList (env : Environment) (selected after : List String) : Sql.SelectList where
  columns := (listedFields env selected).map fun field => (field, .column (env.resolve field))
  after := after

/-- Add a clause on a line of its own, unless it is empty. -/
def addClause (statement : Sql.Buffer) (clause : String) : Sql.Buffer :=
  if clause.isEmpty then statement else statement.startLine.append clause

/-- The clauses one below the other. -/
def lines (clauses : List String) : String :=
  (clauses.foldl addClause .empty).text

/-! ## The statement -/

/-- A statement around a statement, under an alias that does not occur in it. -/
def wrap (inner : String) (list : Sql.OuterList) (after : List String) : String :=
  Sql.text (Sql.OuterSelect.pieces ⟨list, after, inner, Sql.uniqueTableAlias inner⟩)

/-- The text of a statement, put together from its clauses. -/
def body (env : Environment) (commands : List Command) (selected : List String) (output : Output)
    (inner : String) : String :=
  match output with
  | .count => wrap inner .countStar []
  | .rows =>
    if env.allColumnsMapped || selected.isEmpty then inner
    else wrap inner (.columns selected) (Command.inRegion .afterSelectionColumns commands)

/-- Put a statement together. -/
def assemble (env : Environment) (baseSql : String) (commands : List Command) (clauses : Clauses)
    (output : Output) : Assembly :=
  let after := Command.inRegion .afterSelectionColumns commands
  let grouping := (Command.inRegion .beforeGroupingOrHaving commands).map trimStatement
  let filter := Sql.Buffer.empty.write (Sql.Filter.pieces ⟨env.filterClause, clauses.conditions⟩)
  let selectSql :=
    if env.allColumnsMapped then Sql.text (selectList env clauses.selected after).pieces else ""
  let orderBySql := Sql.text (orderByPieces clauses.order)
  let limitSql := Sql.text clauses.limit.pieces
  let filtered :=
    if env.allColumnsMapped then filter.text :: grouping else grouping ++ [filter.text]
  let ordered := match output with
    | .rows => [orderBySql, limitSql]
    | .count => []
  let inner := lines ([selectSql, trimStatement baseSql] ++ filtered ++ ordered)
  { parameters := filter.parameters
    selectSql, orderBySql, limitSql
    filterSql := filter.text
    headerSql := headers commands
    statementSql := body env commands clauses.selected output inner ++ ";" }

/-- The headers and the statement as one script. -/
def finalSql (assembly : Assembly) : String :=
  assembly.headerSql.foldr (fun header rest => header ++ ";\n" ++ rest) assembly.statementSql

end Assembly

end PlanCompiler
