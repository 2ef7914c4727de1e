import Metering.Document

/-!
# Tables of TOML

A document in TOML fills a tree of tables piecewise: by headers, by headers of table lists, and by
dotted keys. A table can be given only once, but tables on the way to it are implied and can still
be given later, by a header if a header implied them and by dotted keys if dotted keys did.
-/

namespace Metering.Document.Toml

mutual

/-- A table: whether it is merely implied, whether dotted keys made it, and its entries. -/
inductive Table where
  | mk (implied dotted : Bool) (entries : List (String × Entry))

/-- What a key of a table stands for. -/
inductive Entry where
  | value (node : Node)
  | table (t : Table)
  | rows (tables : List Table)

end

namespace Table

/-- A table given by a header. -/
def given : Table := mk false false []

/-- A table that was merely implied. -/
def implied : Table → Bool
  | mk implied _ _ => implied

/-- A table that dotted keys made. -/
def dotted : Table → Bool
  | mk _ dotted _ => dotted

def entries : Table → List (String × Entry)
  | mk _ _ entries => entries

/-- What a key stands for. -/
def find? (t : Table) (key : String) : Option Entry :=
  t.entries.lookup key

/-- The table with a new meaning of a key. -/
def put (t : Table) (key : String) (entry : Entry) : Table :=
  mk t.implied t.dotted
    (if (t.find? key).isSome then
      t.entries.map fun (k, e) => if k == key then (k, entry) else (k, e)
    else t.entries ++ [(key, entry)])

/-- The table with its last row changed. -/
def changeLast? (change : Table → Option Table) : List Table → Option (List Table)
  | [] => none
  | [row] => (change row).map fun row => [row]
  | row :: rows => (changeLast? change rows).map (row :: ·)

/--
Changes the table at the end of a path, implied tables being made on the way. A path leads into the
last row of a table list. Dotted keys only lead through implied tables.
-/
def change? (dotted : Bool) (f : Table → Option Table) : List String → Table → Option Table
  | [], t => f t
  | key :: path, t => do
    let entry ←
      match t.find? key with
      | none => (change? dotted f path (mk true dotted [])).map .table
      | some (.value _) => none
      | some (.table child) =>
        if dotted && !child.implied then none else (change? dotted f path child).map .table
      | some (.rows rows) => (changeLast? (change? dotted f path) rows).map .rows
    return t.put key entry

/-- The table with a new key, which must not exist. -/
def add? (key : String) (entry : Entry) (t : Table) : Option Table :=
  if (t.find? key).isSome then none else some (t.put key entry)

/--
The table with a value under a dotted key. Several dotted keys fill the same table only if dotted
keys made it.
-/
def assign? (path : List String) (key : String) (node : Node) (t : Table) : Option Table :=
  change? true
    (fun t => if t.dotted == path.isEmpty then none else t.add? key (.value node)) path t

/-- The table with values under dotted keys, each a path, a last key and a value. -/
def fill? (pairs : List (List String × String × Node)) (t : Table) : Option Table :=
  pairs.foldlM (fun t (path, key, node) => t.assign? path key node) t

/--
The tree with the table of a header filled. The table may have been implied by another header.
-/
def giveTable? (path : List String) (key : String) (pairs : List (List String × String × Node)) :
    Table → Option Table :=
  change? false (fun parent => do
    let before ←
      match parent.find? key with
      | none => some []
      | some (.table t) => if t.implied && !t.dotted then some t.entries else none
      | some _ => none
    let t ← fill? pairs (mk false false before)
    return parent.put key (.table t)) path

/-- The tree with a row filled and added to a list of tables. -/
def giveRow? (path : List String) (key : String) (pairs : List (List String × String × Node)) :
    Table → Option Table :=
  change? false (fun parent => do
    let before ←
      match parent.find? key with
      | none => some []
      | some (.rows rows) => some rows
      | some _ => none
    let row ← fill? pairs given
    return parent.put key (.rows (before ++ [row]))) path

end Table

mutual

def Table.toNode : Table → Node
  | .mk _ _ entries => .members (entryNodes entries) .closed

/-- The node for what a key stands for. -/
def Entry.toNode : Entry → Node
  | .value node => node
  | .table t => t.toNode
  | .rows tables => .list (rowNodes tables) .closed

def rowNodes : List Table → List Node
  | [] => []
  | t :: ts => t.toNode :: rowNodes ts

/-- The keys and nodes for the entries of a table. -/
def entryNodes : List (String × Entry) → List (Except Misreading String × Node)
  | [] => []
  | (key, entry) :: rest => (.ok key, entry.toNode) :: entryNodes rest

end

end Metering.Document.Toml
