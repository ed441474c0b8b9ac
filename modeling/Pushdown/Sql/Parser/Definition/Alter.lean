/-
**Changes of table definitions.**

A change of a table adds, renames, changes or drops columns, conditions, partitions and the like, or
turns rules on and off.

Main definitions:

* `Sql.Parser.alterColumn` — a change of a column;
* `Sql.Parser.alterAction` — a change of a table;
* `Sql.Parser.alterTable` — a changed table.
-/

import Pushdown.Sql.Parser.Definition.Index
import Pushdown.Sql.Parser.Definition.Role

set_option autoImplicit false

namespace Pushdown

namespace Sql

namespace Parser

/-! ### Columns -/

/-- What happens to things that depend on what is dropped, if it is said. -/
def dropBehavior? : Parser Text := phrase? [["CASCADE"], ["RESTRICT"]]

/-- The place of a column among others, if the dialect allows one and it is given. -/
def columnPosition? (g : Grammar) : Parser Text := do
  if !g.speaks [.mysql, .generic] then return []
  else if ← keyword? "FIRST" then return " FIRST".toList
  else clause? "AFTER" identifierText

/-- A type and properties of a column, and its place. -/
def newColumn (g : Grammar) : Parser Text := do
  let type ← dataTypeText g
  let properties ← repeated (columnProperty? g)
  return type ++ (properties.flatMap fun text => ' ' :: text) ++ (← columnPosition? g)

/-- A change of a column, behind its name. -/
def alterColumn (g : Grammar) : Parser Text := do
  if ← keywords? ["SET", "NOT", "NULL"] then return "SET NOT NULL".toList
  else if ← keywords? ["DROP", "NOT", "NULL"] then return "DROP NOT NULL".toList
  else if ← keywords? ["SET", "DEFAULT"] then return "SET DEFAULT ".toList ++ (← g.exprText)
  else if ← keywords? ["DROP", "DEFAULT"] then return "DROP DEFAULT".toList
  else if ← keywords? ["ADD", "GENERATED"] then
    let manner ← phrase? [["ALWAYS"], ["BY", "DEFAULT"]]
    keywords ["AS", "IDENTITY"]
    let options ←
      if ← symbol? "(" then
        let options ← sequenceOptions g
        symbol ")"
        pure (" (".toList ++ options ++ " )".toList)
      else pure []
    return "ADD GENERATED".toList ++ manner ++ " AS IDENTITY".toList ++ options
  else
    let lead := if ← keywords? ["SET", "DATA", "TYPE"] then "SET DATA TYPE ".toList else []
    let lead ←
      if lead.isEmpty then
        keyword "TYPE"
        pure "TYPE ".toList
      else pure lead
    let type ← dataTypeText g
    return lead ++ type ++ (← textIf (g.dialect.name = .postgresql) (clause? "USING" g.exprText))

/-! ### Additions -/

/-- A copy of a table in another order, behind the word. -/
def addProjection (g : Grammar) : Parser Text := do
  let guard ← unlessExists?
  let name ← identifierText
  let inner ← parenthesized do
    keyword "SELECT"
    let items ← listed <$> listOf (g.dialect.trailingCommas || g.dialect.name == .generic)
      (selectItem g)
    let groups ← groupBy? g
    return "SELECT ".toList ++ items ++ groups ++ (← orderBy? g)
  return "ADD PROJECTION".toList ++ guard ++ ' ' :: name ++ ' ' :: inParens inner

/-- A partition by its values, if one is named. -/
def partition? (g : Grammar) : Parser (Option Text) := do
  if ← keyword? "PARTITION" then
    return some (" PARTITION ".toList ++ (← g.listInParens g.exprText))
  else return none

/-- Something new in a table, behind `ADD`. -/
def alterAdd (g : Grammar) : Parser Text := do
  match ← tableConstraint? g with
  | some text => return "ADD ".toList ++ text ++ (← phrase? [["NOT", "VALID"]])
  | none =>
      if ← keywordIf? (g.dialect.name == .generic) "PROJECTION" then addProjection g
      else
        let guard ← unlessExists?
        let partitions ← repeated (partition? g)
        if !partitions.isEmpty then return "ADD".toList ++ guard ++ partitions.flatten
        else
          let word ← phrase? [["COLUMN"]]
          let isGuarded := g.speaks [.postgresql, .duckdb, .generic]
          let late ← textIf isGuarded unlessExists?
          let guard := if !isGuarded then [] else if late.isEmpty then guard else late
          let column ← columnDefinition g
          return "ADD".toList ++ word ++ guard ++ ' ' :: column ++ (← columnPosition? g)

/-! ### Removals -/

/-- Partitions that are dropped; `guard` stands in front of the word. -/
def dropPartitions (g : Grammar) (guard : Text) : Parser Text :=
  return "DROP".toList ++ guard ++ " PARTITION ".toList ++ (← g.listInParens g.exprText)

/-- Something of a table that is dropped, behind `DROP`. -/
def alterDrop (g : Grammar) : Parser Text := do
  if ← keywords? ["IF", "EXISTS", "PARTITION"] then dropPartitions g " IF EXISTS".toList
  else if ← keyword? "PARTITION" then dropPartitions g []
  else if ← keyword? "CONSTRAINT" then
    let guard ← ifExists?
    let name ← identifierText
    return "DROP CONSTRAINT".toList ++ guard ++ ' ' :: name ++ (← dropBehavior?)
  else if ← keywords? ["PRIMARY", "KEY"] then return "DROP PRIMARY KEY".toList ++ (← dropBehavior?)
  else if ← keywords? ["FOREIGN", "KEY"] then
    let name ← identifierText
    return "DROP FOREIGN KEY ".toList ++ name ++ (← dropBehavior?)
  else if ← keyword? "INDEX" then return "DROP INDEX ".toList ++ (← identifierText)
  else if ← keywordWhere "PROJECTION" (g.dialect.name = .generic) then
    let guard ← ifExists?
    return "DROP PROJECTION".toList ++ guard ++ ' ' :: (← identifierText)
  else if ← keywords? ["CLUSTERING", "KEY"] then return "DROP CLUSTERING KEY".toList
  else
    let word ← phrase? [["COLUMN"]]
    let guard ← ifExists?
    let name ← identifierText
    return "DROP".toList ++ word ++ guard ++ ' ' :: name ++ (← dropBehavior?)

/-! ### Names and rules -/

/-- A new name of a column, a condition or the table, behind `RENAME`. -/
def alterRename (g : Grammar) : Parser Text := do
  let pair (lead : String) : Parser Text := do
    let name ← identifierText
    keyword "TO"
    return lead.toList ++ ' ' :: name ++ clause "TO" (← identifierText)
  if ← keywordIf? (g.dialect.name == .postgresql) "CONSTRAINT" then pair "RENAME CONSTRAINT"
  else if ← keyword? "TO" then return "RENAME TO ".toList ++ (← objectNameText)
  else if ← keyword? "AS" then return "RENAME AS ".toList ++ (← objectNameText)
  else
    let _ ← keyword? "COLUMN"
    pair "RENAME COLUMN"

/-- What is turned on or off, and its name where it has one. -/
def switched (lead : Text) (named : List (List String)) : Parser Text := do
  if ← keywords? ["ROW", "LEVEL", "SECURITY"] then return lead ++ " ROW LEVEL SECURITY".toList
  else
    match ← phrase? named with
    | [] => fail
    | words => return lead ++ words ++ ' ' :: (← identifierText)

/-- A part of a table by a value. -/
def portion (g : Grammar) : Parser Text := do
  let word ← oneOf ["PART", "PARTITION"]
  return word ++ ' ' :: (← g.exprText)

/-- What is known of a changed row, behind the words. -/
def replicaIdentity : Parser Text := do
  if ← keywords? ["USING", "INDEX"] then return "USING INDEX ".toList ++ (← identifierText)
  else oneOf ["NONE", "FULL", "DEFAULT"]

/-! ### Changes -/

/-- A change of the parts of a table that only the most permissive dialect knows, if it is one. -/
def alterPart? (g : Grammar) : Parser (Option Text) := do
  if g.dialect.name != .generic then return none
  else
    match ← oneOf? ["ATTACH", "DETACH"] with
    | some word => return some (word ++ ' ' :: (← portion g))
    | none =>
        match ← oneOf? ["FREEZE", "UNFREEZE"] with
        | some word =>
            let text ← portion g
            let name ←
              if ← keyword? "WITH" then
                keyword "NAME"
                clause "WITH NAME" <$> identifierText
              else pure []
            return some (word ++ ' ' :: text ++ name)
        | none => return none

/-- A projection whose contents are removed or computed, if it is one. -/
def alterProjection? (g : Grammar) : Parser (Option Text) := do
  let words ← phrase? [["CLEAR", "PROJECTION"], ["MATERIALIZE", "PROJECTION"]]
  if words.isEmpty then return none
  else if g.dialect.name != .generic then fail
  else
    let guard ← ifExists?
    let name ← identifierText
    let place ← clauseBehind? ["IN", "PARTITION"] identifierText
    return some (words.drop 1 ++ guard ++ ' ' :: name ++ place)

/-- Options of a table that are set. -/
def alterOptions (g : Grammar) : Parser Text := do
  if ← keywords? ["SET", "TBLPROPERTIES"] then
    return "SET TBLPROPERTIES".toList ++ (← g.listInParens (tableOption g))
  else
    keyword "SET"
    let options ← g.anyInParens (tableOption g)
    if options = inParens [] then fail else return "SET ".toList ++ options

/-- A change of a table that is told by its first words. -/
def alterOther (g : Grammar) : Parser Text := do
  if ← keyword? "PARTITION" then
    let before ← g.listInParens g.exprText
    keywords ["RENAME", "TO", "PARTITION"]
    return "PARTITION ".toList ++ before ++ " RENAME TO PARTITION ".toList ++
      (← g.listInParens g.exprText)
  else if ← keyword? "CHANGE" then
    let _ ← keyword? "COLUMN"
    let name ← identifierText
    let newName ← identifierText
    return "CHANGE COLUMN ".toList ++ name ++ ' ' :: newName ++ ' ' :: (← newColumn g)
  else if ← keyword? "MODIFY" then
    let _ ← keyword? "COLUMN"
    let name ← identifierText
    return "MODIFY COLUMN ".toList ++ name ++ ' ' :: (← newColumn g)
  else if ← keyword? "ALTER" then
    let _ ← keyword? "COLUMN"
    let name ← identifierText
    return "ALTER COLUMN ".toList ++ name ++ ' ' :: (← alterColumn g)
  else if ← keyword? "SWAP" then
    keyword "WITH"
    return "SWAP WITH ".toList ++ (← objectNameText)
  else if ← keywordsIf? (g.speaks [.postgresql, .generic]) ["OWNER", "TO"] then
    return "OWNER TO ".toList ++ (← owner)
  else if ← keywords? ["CLUSTER", "BY"] then
    return "CLUSTER BY ".toList ++ (← g.listInParens g.exprText)
  else if ← keywords? ["SUSPEND", "RECLUSTER"] then return "SUSPEND RECLUSTER".toList
  else if ← keywords? ["RESUME", "RECLUSTER"] then return "RESUME RECLUSTER".toList
  else if ← keyword? "AUTO_INCREMENT" then
    let sign ← equals?
    return "AUTO_INCREMENT ".toList ++ sign ++ (← unsignedNumber g)
  else if ← keywords? ["REPLICA", "IDENTITY"] then
    return "REPLICA IDENTITY ".toList ++ (← replicaIdentity)
  else if ← keywords? ["VALIDATE", "CONSTRAINT"] then
    return "VALIDATE CONSTRAINT ".toList ++ (← identifierText)
  else
    match ← lockingChoice? with
    | some text => return text
    | none =>
        match ← alterPart? g with
        | some text => return text
        | none => alterOptions g

/-- A change of a table, behind its name. -/
def alterAction (g : Grammar) : Parser Text := do
  if ← keyword? "ADD" then alterAdd g
  else if ← keyword? "RENAME" then alterRename g
  else if ← keyword? "DISABLE" then switched "DISABLE".toList [["RULE"], ["TRIGGER"]]
  else if ← keyword? "ENABLE" then
    switched "ENABLE".toList [["ALWAYS", "RULE"], ["ALWAYS", "TRIGGER"], ["REPLICA", "RULE"],
      ["REPLICA", "TRIGGER"], ["RULE"], ["TRIGGER"]]
  else if ← keyword? "DROP" then alterDrop g
  else
    match ← alterProjection? g with
    | some text => return text
    | none => alterOther g

/-- The place of the rows of a table, if it is set. -/
def newLocation? : Parser Text := do
  let set ← phrase? [["SET", "LOCATION"], ["LOCATION"]]
  if set.isEmpty then return [] else return set ++ ' ' :: (← identifierText)

/-- A changed table, behind the word. -/
def alterTable (g : Grammar) (lead : Text) : Parser Text := do
  let guard ← ifExists?
  let only ← phrase? [["ONLY"]]
  let name ← objectNameText
  let cluster ← onCluster?
  let actions ← g.list (alterAction g)
  return lead ++ guard ++ only ++ ' ' :: name ++ cluster ++ ' ' :: actions ++ (← newLocation?)

end Parser

end Sql

end Pushdown
