/-!
# The manual

Pages on the query language, and an overview of them.

* `Manual.overview`
* `Manual.Page.ofName?` : a page by one of its names.
* `Manual.Page.text` : what a page says.
-/

namespace Axial

namespace Manual

/-- A page of the manual. -/
inductive Page where
  | escaping
  | operators
  | filters
  | operations
  | queries
deriving DecidableEq, Repr

/-- Lines of text, each with its end. -/
def lines (texts : List String) : String :=
  String.join (texts.map (· ++ "\n"))

/-- What there is to read. -/
def overview : String :=
  lines [
    "AXQ DOCUMENTATION",
    "",
    "axq queries a data store of named axes, plus scalars, per-axis vectors and",
    "per-axis-pair matrices. A query is a flat string of names joined by",
    "single-character operators; the number of axes it names decides whether it",
    "returns a scalar, a vector or a matrix.",
    "",
    "DOCUMENTATION CATEGORIES",
    "",
    "  syntax            Names, escaping, whitespace and comments",
    "  operators         The operator table with precedence and associativity",
    "  filters           Masking axes with properties, comparisons and combinators",
    "  operations        Element-wise (%) and reduction (%>) operations",
    "  queries           Scalar, vector and matrix lookups",
    "",
    "QUICK REFERENCE",
    "",
    "  version                       Scalar lookup",
    "  gene @ score                  Vector lookup",
    "  gene = FOX1 @ score           Entry of a vector",
    "  cell , gene @ UMIs            Matrix lookup",
    "  gene & marker @ score         Filtered vector",
    "  cell , gene @ UMIs %> Sum     Reduce the rows of a matrix",
    "",
    "Run 'axq doc <category>' for detailed documentation.",
    "Run 'axq operations' to list the available operations."]

/-! ### Names of pages -/

/-- A letter in lower case. Of the letters beyond ASCII only the sign for kelvin becomes one of
ASCII, so the others do not matter for the names of pages. -/
def lowerCase (c : Char) : Char :=
  if c = '\u212a' then 'k' else c.toLower

/-- The page with the given name; upper and lower case are the same. -/
def Page.ofName? (name : String) : Option Page :=
  match String.ofList (name.toList.map lowerCase) with
  | "syntax" | "escaping" => some escaping
  | "operators" | "ops" => some operators
  | "filters" | "filter" | "masks" => some filters
  | "operations" | "eltwise" | "reductions" => some operations
  | "queries" | "query" | "lookups" => some queries
  | _ => none

/-! ### Texts of pages -/

/-- Names, escaping, blanks and comments. -/
def escapingText : String :=
  lines [
    "SYNTAX",
    "",
    "NAMES",
    "  Names and values are runs of letters, digits, '_', '.', '+' and '-'.",
    "  Any non-ASCII character is also part of a name.",
    "",
    "    gene",
    "    cell.type",
    "    -1.5e3",
    "",
    "ESCAPING",
    "  Any other character is made part of a name by preceding it with '\\'.",
    "",
    "    cell\\ type          The name \"cell type\"",
    "    a\\,b                The name \"a,b\"",
    "    \\#tag               The name \"#tag\"",
    "",
    "WHITESPACE",
    "  Whitespace between names and operators is optional:",
    "",
    "    cell,gene@UMIs   is the same as   cell , gene @ UMIs",
    "",
    "COMMENTS",
    "  An unescaped '#' starts a comment running to the end of the line.",
    "",
    "    gene @ score   # per-gene score",
    "",
    "  An escaped whitespace character, including a line break, becomes an",
    "  escaped space."]

/-- The table of operators. -/
def operatorsText : String :=
  lines [
    "OPERATORS",
    "",
    "From the loosest to the tightest binding:",
    "",
    "  %>                  0  left    Reduction",
    "  %                   1  right   Element-wise operation",
    "  @                   2  right   Lookup",
    "  ;  ,                3  right   Parameters, axis pairs",
    "  &  |  ^             4  right   Filter combinators",
    "  <  <=  !=  =  >=  > 5  right   Comparisons",
    "  ~  !~               5  right   Regular expression (mis)match",
    "  :                   6  right   Chained property",
    "",
    "A prefix '~' inverts a boolean property:",
    "",
    "  gene & ~ marker @ score",
    "",
    "Longer operators win over their prefixes: '%>' over '%', '<=' over '<',",
    "'!~' over '~'."]

/-- Masks of axes. -/
def filtersText : String :=
  lines [
    "FILTERS",
    "",
    "An axis can be followed by filters, each a combinator and a property:",
    "",
    "  gene & marker                 Keep marker genes",
    "  gene & ~ marker               Keep non-marker genes",
    "  gene & score > 0.5            Keep genes by comparison",
    "  gene & name ~ RP\\[SL\\].\\*     Keep genes by regular expression",
    "  gene & marker | score > 0.5   Combine filters",
    "",
    "COMBINATORS",
    "  &   and      |   or      ^   xor",
    "",
    "  Filters are applied left to right, starting from all entries selected.",
    "  A filter property without a comparison must be boolean.",
    "",
    "COMPARISONS",
    "  Values are compared with the type of the property: numeric properties",
    "  compare numerically, string properties lexicographically. Regular",
    "  expressions must match the whole value, and their special characters",
    "  must be escaped:  name ~ RP\\[SL\\].\\*",
    "",
    "CHAINED PROPERTIES",
    "  A string property naming entries of another axis can be followed through:",
    "",
    "    cell & batch : donor : age > 60",
    "",
    "  The next axis is the property name itself, or its part before the first '.'",
    "  (so 'batch.original' refers to the 'batch' axis).",
    "",
    "EMPTY RESULTS",
    "  If filters select no entries of an axis, the query has no result and",
    "  axq prints 'null'."]

/-- Operations and their parameters. -/
def operationsText : String :=
  lines [
    "OPERATIONS",
    "",
    "ELEMENT-WISE (%)",
    "  Apply a function to every value, keeping the shape:",
    "",
    "    gene @ score % Abs",
    "    cell , gene @ UMIs % Log ; base = 2 , eps = 1",
    "",
    "REDUCTIONS (%>)",
    "  Collapse the rows of a matrix into a vector, or a vector into a scalar:",
    "",
    "    cell , gene @ UMIs %> Sum           Vector along the genes",
    "    gene @ score %> Mean                Scalar",
    "",
    "PARAMETERS",
    "  Parameters follow the operation name after ';', separated by ','. Omitted",
    "  parameters take their defaults; the canonical form lists all of them.",
    "",
    "Run 'axq operations' for the full list of operations and parameters."]

/-- Lookups by arity. -/
def queriesText : String :=
  lines [
    "QUERIES",
    "",
    "SCALARS",
    "  version                         A scalar property",
    "  gene = FOX1 @ score             One entry of a vector",
    "  cell = C1 , gene = FOX1 @ UMIs  One entry of a matrix",
    "  gene @ score %> Max             A reduced vector",
    "",
    "VECTORS",
    "  gene @ score                    A vector property",
    "  gene @ name                     The entry names of the axis",
    "  cell , gene = FOX1 @ UMIs       A column of a matrix",
    "  gene = FOX1 , cell @ UMIs       The same column, entry first",
    "  cell , gene @ UMIs %> Sum       A reduced matrix",
    "",
    "MATRICES",
    "  cell , gene @ UMIs              Rows along cells, columns along genes",
    "  gene , cell @ UMIs              The same data, transposed",
    "",
    "CANONICAL FORM",
    "  'axq canonical <QUERY>' prints the normalized form of a query: single",
    "  spaces around operators, escaped names, explicit parameters and sorted",
    "  runs of identical filter combinators."]

/-- What a page says. -/
def Page.text : Page → String
  | escaping => escapingText
  | operators => operatorsText
  | filters => filtersText
  | operations => operationsText
  | queries => queriesText

end Manual

end Axial
