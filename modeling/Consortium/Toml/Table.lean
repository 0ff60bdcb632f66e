/-!
The contents of a TOML text: tables of named nodes. A table may be defined in one place only. One
that first came about as a part of a longer name (`isImplicit`) may still be defined; one that came
about as a part of a dotted key (`isDotted`) may only be extended by further dotted keys.
-/

namespace Consortium.Toml

inductive Node where
  | string (text : String)
  | integer (value : Int)
  | boolean (value : Bool)
  /-- A number with a fraction or an exponent. Its value is never asked for. -/
  | float
  /-- A date, a time or both. Its value is never asked for. -/
  | moment
  | array (items : List Node)
  /-- A table in braces, to which nothing can be added. -/
  | closedTable (entries : List (String × Node))
  | table (isImplicit isDotted : Bool) (entries : List (String × Node))
  /-- The tables under one repeated header, each by its entries, the last one first. -/
  | tables (elements : List (List (String × Node)))

namespace Node

instance : Inhabited Node := ⟨.boolean false⟩

end Node

/-- A table that can be extended. Its entries stand in the order in which they were added. -/
structure Table where
  isImplicit : Bool
  isDotted : Bool
  entries : List (String × Node)

namespace Table

def empty : Table := ⟨false, false, []⟩

def toNode (table : Table) : Node := .table table.isImplicit table.isDotted table.entries

def get? (table : Table) (name : String) : Option Node := table.entries.lookup name

def add (table : Table) (name : String) (node : Node) : Table :=
  { table with entries := table.entries ++ [(name, node)] }

def replace (table : Table) (name : String) (node : Node) : Table :=
  { table with
    entries := table.entries.map fun entry => if entry.1 = name then (name, node) else entry }

def remove (table : Table) (name : String) : Table :=
  { table with entries := table.entries.filter fun entry => entry.1 != name }

/-- Changes the table that a path leads to, creating tables on the way as they are needed. Dotted
keys do not lead into a table that has been defined; headers do. -/
def change? (dotted : Bool) (change : Table → Option Table) :
    List String → Table → Option Table
  | [], table => change table
  | name :: path, table =>
      match table.get? name with
      | none => do
          let created ← change? dotted change path ⟨true, dotted, []⟩
          some (table.add name created.toNode)
      | some (.table isImplicit isDotted entries) =>
          if dotted && !isImplicit then none
          else do
            let changed ← change? dotted change path ⟨isImplicit, isDotted, entries⟩
            some (table.replace name changed.toNode)
      | some (.tables (last :: others)) => do
          let changed ← change? dotted change path { empty with entries := last }
          some (table.replace name (.tables (changed.entries :: others)))
      | some _ => none

/-- Puts a value under a dotted key. A table is extended by keys of one kind only. -/
def put? (table : Table) (path : List String) (name : String) (value : Node) : Option Table :=
  change? true
    (fun target =>
      if target.isDotted = path.isEmpty then none
      else if (target.get? name).isSome then none
      else some (target.add name value))
    path table

def putAll? : List (List String × String × Node) → Table → Option Table
  | [], table => some table
  | (path, name, value) :: rest, table => (table.put? path name value).bind (putAll? rest)

def close? (entries : List (List String × String × Node)) : Option Node :=
  (putAll? entries empty).map fun table => .closedTable table.entries

/-- The node that a header defines, given what is there under its name. -/
def define? (entries : List (List String × String × Node)) (parent : Table) (name : String) :
    Option Table :=
  match parent.get? name with
  | none => do
      let table ← putAll? entries empty
      some (parent.add name table.toNode)
  | some (.table true false existing) => do
      let table ← putAll? entries { empty with entries := existing }
      some ((parent.remove name).add name table.toNode)
  | some _ => none

def append? (entries : List (List String × String × Node)) (parent : Table) (name : String) :
    Option Table := do
  let table ← putAll? entries empty
  match parent.get? name with
  | none => some (parent.add name (.tables [table.entries]))
  | some (.tables others) => some (parent.replace name (.tables (table.entries :: others)))
  | some _ => none

end Table

structure Section where
  isRepeated : Bool
  path : List String
  name : String
  entries : List (List String × String × Node)

namespace Table

def addSection? (table : Table) (added : Section) : Option Table :=
  change? false
    (fun parent =>
      if added.isRepeated then append? added.entries parent added.name
      else define? added.entries parent added.name)
    added.path table

/-- The table of a text: its entries before the first header, then its sections. -/
def ofSections? (entries : List (List String × String × Node)) (sections : List Section) :
    Option Table := do
  let table ← putAll? entries empty
  sections.foldlM addSection? table

end Table

end Consortium.Toml
