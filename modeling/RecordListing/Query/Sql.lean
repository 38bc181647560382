import RecordListing.Query.Listing

/-!
# Listings as SQL

The two statements of a listing: one counts the keys of the matching rows, the other selects the
rows of one page of keys. Values never enter the text, which refers to them by name.
-/

set_option autoImplicit false

namespace RecordListing.Sql

open RecordListing.Text

/-! ## Names -/

/-- Words that are no names unless they are quoted. -/
def reservedWords : List String := [
  "all", "analyse", "analyze", "and", "any", "array", "as", "asc", "asymmetric", "authorization",
  "between", "binary", "both", "case", "cast", "check", "collate", "column", "constraint",
  "create", "cross", "current_catalog", "current_date", "current_role", "current_schema",
  "current_time", "current_timestamp", "current_user", "default", "deferrable", "desc",
  "distinct", "do", "else", "end", "except", "false", "fetch", "for", "foreign", "freeze", "from",
  "full", "grant", "group", "having", "ilike", "in", "initially", "inner", "intersect", "into",
  "is", "isnull", "join", "lateral", "leading", "left", "like", "limit", "localtime",
  "localtimestamp", "natural", "new", "not", "notnull", "null", "of", "off", "offset", "old", "on",
  "only", "or", "order", "outer", "over", "overlaps", "placing", "primary", "references",
  "returning", "right", "select", "session_user", "similar", "some", "symmetric", "table", "then",
  "to", "trailing", "true", "union", "unique", "user", "using", "variadic", "verbose", "when",
  "where", "window", "with"]

/-- Whether a name can stand without quotes: small letters, digits, underscores and dollar signs,
not beginning with a digit or a dollar sign, and no reserved word. -/
def isPlainName (name : String) : Bool :=
  let plain (c : Char) : Bool := c.isLower || c.isDigit || c == '_' || c == '$'
  name.toList.all plain && !reservedWords.contains name &&
    match name.toList with
    | [] => false
    | c :: _ => !c.isDigit && c != '$'

/-- A name, in double quotes where it needs them; a double quote in it is written twice. -/
def identifier (name : String) : String :=
  if isPlainName name then name
  else
    let doubled := name.toList.flatMap fun c => if c = '"' then ['"', '"'] else [c]
    String.ofList ('"' :: doubled ++ ['"'])

/-- A column under the alias of its table. -/
def qualified (table column : String) : String := identifier table ++ "." ++ identifier column

def columnText (root : Entity) (ref : ColumnRef) : String :=
  qualified (aliasOf root ref.hops) ref.column.physical

/-- The reference to a value. -/
def placeholder (name : String) (type : ColumnType) : String :=
  "%(" ++ name ++ ")s" ++
    match type with
    | .uuid => "::UUID"
    | .json => "::JSON"
    | _ => ""

/-- The names of `count` values of one list. -/
def itemNames (name : String) (count : Nat) : List String :=
  (List.range count).map fun i => name ++ "_" ++ Nat.repr (i + 1)

/-! ## Conditions -/

def comparisonText : Comparison → String
  | .eq => "="
  | .ne => "!="
  | .gt => ">"
  | .gte => ">="
  | .lt => "<"
  | .lte => "<="

def bindText (bind : Bind) : String := placeholder bind.name bind.type

def testText (root : Entity) : Test → String
  | .compare column comparison bind =>
    columnText root column ++ " " ++ comparisonText comparison ++ " " ++ bindText bind
  | .isNull column absent => columnText root column ++ if absent then " IS NULL" else " IS NOT NULL"
  | .like column cast anyCase bind =>
    let text := columnText root column
    (if cast then "CAST(" ++ text ++ " AS VARCHAR)" else text) ++
      (if anyCase then " ILIKE " else " LIKE ") ++ bindText bind
  | .between column low high =>
    columnText root column ++ " BETWEEN " ++ bindText low ++ " AND " ++ bindText high
  | .dayBetween column low high =>
    "date(" ++ columnText root column ++ ") BETWEEN " ++ bindText low ++ " AND " ++ bindText high
  | .oneOf column among name values =>
    let list := joined ", "
      ((itemNames name values.length).map fun item => placeholder item column.column.type)
    if among then columnText root column ++ " IN (" ++ list ++ ")"
    else "(" ++ columnText root column ++ " NOT IN (" ++ list ++ "))"
  | .isTruth column truth => columnText root column ++ if truth then " = true" else " = false"

/-- The text of a condition. `inside` says that it is one of several that all have to hold, so that
alternatives stand in parentheses. -/
def conditionText (root : Entity) (inside : Bool) : Condition → String
  | .never => "false"
  | .test test => testText root test
  | .both left right => conditionText root true left ++ " AND " ++ conditionText root true right
  | .either left right =>
    let text := conditionText root false left ++ " OR " ++ conditionText root false right
    if inside then "(" ++ text ++ ")" else text

/-- The names of a test with their values. -/
def testParams : Test → List (String × Value)
  | .compare _ _ bind | .like _ _ _ bind => [(bind.name, bind.value)]
  | .between _ low high | .dayBetween _ low high => [(low.name, low.value), (high.name, high.value)]
  | .oneOf _ _ name values => (itemNames name values.length).zip values
  | .isNull _ _ | .isTruth _ _ => []

def conditionParams : Condition → List (String × Value)
  | .never => []
  | .test test => testParams test
  | .both left right | .either left right => conditionParams left ++ conditionParams right

/-- Whether nothing meets the conditions, whatever the others say. -/
def isHopeless (conditions : List Condition) : Bool :=
  conditions.any fun
    | .never => true
    | _ => false

/-- The text of conditions that all have to hold. -/
def whereText (root : Entity) (conditions : List Condition) : String :=
  if isHopeless conditions then "false"
  else joined " AND " (conditions.map (conditionText root (1 < conditions.length)))

def whereParams (conditions : List Condition) : List (String × Value) :=
  if isHopeless conditions then [] else conditions.flatMap conditionParams

/-! ## Joins -/

/-- The text of one join; `number` counts the joins through a table in between. -/
def joinText (root : Entity) (number : Nat) (step : JoinStep) : String :=
  let shownAs := aliasOf root step.hops
  let parent := aliasOf root step.parent
  let joined := identifier step.target.table ++ " AS " ++ identifier shownAs
  match step.relation.link with
  | .toOne foreignKey targetKey =>
    " LEFT OUTER JOIN " ++ joined ++ " ON " ++ qualified shownAs targetKey ++ " = " ++
      qualified parent foreignKey
  | .toMany ownerKey foreignKey =>
    " LEFT OUTER JOIN " ++ joined ++ " ON " ++ qualified parent ownerKey ++ " = " ++
      qualified shownAs foreignKey
  | .through table ownerKey ownerReference targetKey targetReference =>
    let between := table ++ "_" ++ Nat.repr number
    let pairs := identifier table ++ " AS " ++ identifier between ++ " JOIN " ++ joined ++ " ON " ++
      qualified shownAs targetKey ++ " = " ++ qualified between targetReference
    " LEFT OUTER JOIN (" ++ pairs ++ ") ON " ++ qualified parent ownerKey ++ " = " ++
      qualified between ownerReference

/-- Whether the step joins through a table in between. -/
def isThrough (step : JoinStep) : Bool :=
  match step.relation.link with
  | .through .. => true
  | _ => false

/-- The text of joins, the next one through a table in between being the `number`-th. -/
def joinTexts (root : Entity) (number : Nat) : List JoinStep → String
  | [] => ""
  | step :: steps =>
    let next := if isThrough step then number + 1 else number
    joinText root number step ++ joinTexts root next steps

/-- The root under its alias with all joins. -/
def sourceText (plan : JoinPlan) : String :=
  identifier plan.root.table ++ " AS " ++ identifier plan.rootAlias ++
    joinTexts plan.root 1 plan.steps

/-! ## Statements -/

/-- The columns of the key under the alias of the root. -/
def keyTexts (root : Entity) : List String :=
  root.keyColumns.map fun column => qualified root.name column.physical

/-- The keys of the root, with the joins of the plan. -/
def planText (plan : JoinPlan) : String :=
  "SELECT " ++ joined ", " (keyTexts plan.root) ++ " \nFROM " ++ sourceText plan

def filterText (listing : Listing) : String :=
  if listing.conditions.isEmpty then ""
  else " \nWHERE " ++ whereText listing.plan.root listing.conditions

def groupText (listing : Listing) : String :=
  " GROUP BY " ++ joined ", " (keyTexts listing.plan.root)

/-- Counts the keys of the matching rows. -/
def countText (listing : Listing) : String :=
  let root := listing.plan.root
  let keys := root.keyColumns.map fun column =>
    qualified root.name column.physical ++ " AS " ++ identifier column.physical
  "SELECT count(*) AS count_1 \nFROM (SELECT " ++ joined ", " keys ++ " \nFROM " ++
    sourceText listing.plan ++ filterText listing ++ groupText listing ++ ") AS matched_keys"

/-- The name of the `index`-th column of a key. -/
def keyName (index : Nat) : String := "pk_" ++ Nat.repr index

/-- Selects the rows of one page of keys. -/
def dataText (listing : Listing) : String :=
  let root := listing.plan.root
  let sorting := listing.sorting
  let order := sorting.order.name
  let indexed := root.keyColumns.zipIdx
  let keys := indexed.map fun (column, i) =>
    qualified root.name column.physical ++ " AS " ++ keyName i
  let extreme := (if sorting.order.ascending then "min(" else "max(") ++
    columnText root sorting.column ++ ") AS sort_key"
  let ascending := (keyTexts root).map (· ++ " ASC")
  let page := "(SELECT " ++ joined ", " (keys ++ [extreme]) ++ " \nFROM " ++
    sourceText listing.plan ++ filterText listing ++ groupText listing ++ " ORDER BY " ++
    joined ", " (("sort_key " ++ order) :: ascending) ++
    " \n LIMIT %(param_1)s OFFSET %(param_2)s) AS page_keys"
  let same := indexed.map fun (column, i) =>
    qualified root.table column.physical ++ " = page_keys." ++ keyName i
  let tableKeys := root.keyColumns.map fun column => qualified root.table column.physical ++ " ASC"
  "SELECT " ++ joined ", " (root.columns.map fun column => qualified root.table column.physical) ++
    " \nFROM " ++ identifier root.table ++ " JOIN " ++ page ++ " ON " ++ joined " AND " same ++
    " ORDER BY " ++ joined ", " (("page_keys.sort_key " ++ order) :: tableKeys)

/-- The values of the statement that selects the rows. -/
def dataParams (listing : Listing) : List (String × Value) :=
  whereParams listing.conditions ++
    [("param_1", .int listing.window.limit), ("param_2", .int listing.window.offset)]

end RecordListing.Sql
