/-!
# Reserved keywords

The words that the query language keeps for itself. A name collides with one when its upper case
is that word.
-/

namespace SemanticLayer

/-- The reserved keywords, in upper case. -/
def reservedKeywords : List String := [
  "ALL", "ALTER", "AND", "ANY", "AS", "ASC", "BETWEEN", "BY", "CASE", "CAST", "CHECK", "COLUMN",
  "CONNECT", "CONSTRAINT", "CREATE", "CROSS", "CURRENT", "CURRENT_DATE", "CURRENT_TIME",
  "CURRENT_TIMESTAMP", "CURRENT_USER", "DEFAULT", "DELETE", "DESC", "DISTINCT", "DROP", "ELSE",
  "END", "EXCEPT", "EXISTS", "FALSE", "FETCH", "FOLLOWING", "FOR", "FROM", "FULL", "GRANT",
  "GROUP", "GROUPING", "HAVING", "IF", "ILIKE", "IN", "INCREMENT", "INNER", "INSERT",
  "INTERSECT", "INTERVAL", "INTO", "IS", "JOIN", "LATERAL", "LEFT", "LIKE", "LIMIT",
  "LOCALTIME", "LOCALTIMESTAMP", "MINUS", "NATURAL", "NOT", "NULL", "OF", "OFFSET", "ON", "OR",
  "ORDER", "OUTER", "OVER", "PARTITION", "PRECEDING", "QUALIFY", "RANGE", "REGEXP", "REVOKE",
  "RIGHT", "RLIKE", "ROW", "ROWS", "SAMPLE", "SELECT", "SET", "SOME", "START", "TABLE",
  "TABLESAMPLE", "THEN", "TO", "TRIGGER", "TRUE", "TRY_CAST", "UNBOUNDED", "UNION", "UNIQUE",
  "UPDATE", "USING", "VALUES", "VIEW", "WHEN", "WHENEVER", "WHERE", "WINDOW", "WITH"]

/-- The upper case of a character when it is ASCII. Keywords are ASCII, so a name that holds a
character without one is no keyword. -/
def asciiUpper? (c : Char) : Option (List Char) :=
  if c.toNat < 0x80 then some [c.toUpper]
  else match c with
    | 'ß' => some ['S', 'S']
    | 'ı' => some ['I']
    | 'ſ' => some ['S']
    | 'ﬀ' => some ['F', 'F']
    | 'ﬁ' => some ['F', 'I']
    | 'ﬂ' => some ['F', 'L']
    | 'ﬃ' => some ['F', 'F', 'I']
    | 'ﬄ' => some ['F', 'F', 'L']
    | 'ﬅ' => some ['S', 'T']
    | 'ﬆ' => some ['S', 'T']
    | _   => none

/-- The name is a reserved keyword, in any case. -/
def isReservedKeyword (name : String) : Bool :=
  match name.toList.mapM asciiUpper? with
  | some cs => reservedKeywords.contains (String.ofList cs.flatten)
  | none    => false

end SemanticLayer
