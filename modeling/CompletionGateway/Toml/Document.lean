import CompletionGateway.Numeric.Binary

/-! Values of a TOML document, and the rules by which its lines build tables: a key is defined once, a table is
opened by one header, and dotted keys neither extend a table that a header opened nor one written inline. -/
namespace CompletionGateway.Toml

inductive Value where
  | string (s : String)
  | integer (i : Int)
  | real (b : Numeric.Binary)
  | boolean (b : Bool)
  | datetime (text : String)
  | array (elements : List Value)
  | table (entries : List (String × Value))
  deriving Inhabited, Repr

mutual

/-- What a key stands for while the document is read. -/
inductive Node where
  | value (v : Value)
  | table (t : Table)
  /-- An array of tables, its last one being open. -/
  | tables (ts : List Table)

/-- A table, whether it only came about on the way to another one, and whether dotted keys made it. -/
inductive Table where
  | mk (implicit dotted : Bool) (entries : List (String × Node))

end

namespace Table

def implicit : Table → Bool
  | .mk i _ _ => i

def dotted : Table → Bool
  | .mk _ d _ => d

def entries : Table → List (String × Node)
  | .mk _ _ es => es

def find? (t : Table) (k : String) : Option Node := (t.entries.find? (·.1 = k)).map (·.2)

/-- Enter a node, in the place of the key's old one if there is one. -/
def insert (t : Table) (k : String) (n : Node) : Table :=
  .mk t.implicit t.dotted <|
    if (t.find? k).isSome then t.entries.map fun e => if e.1 = k then (k, n) else e
    else t.entries ++ [(k, n)]

def root : Table := .mk false false []

/-- Change the table at the end of a path, making those on the way that are missing. Dotted keys do not lead
through a table with a header of its own. -/
def withTable (dotted : Bool) : List String → (Table → Option Table) → Table → Option Table
  | [], f, t => f t
  | k :: ks, f, t =>
    match t.find? k with
    | none => (withTable dotted ks f (.mk true dotted [])).map fun u => t.insert k (.table u)
    | some (.value _) => none
    | some (.table u) =>
      if dotted && !u.implicit then none
      else (withTable dotted ks f u).map fun u => t.insert k (.table u)
    | some (.tables ts) =>
      match ts.getLast? with
      | none => none
      | some u => (withTable dotted ks f u).map fun u => t.insert k (.tables (ts.dropLast ++ [u]))

/-- Give a new key its value. -/
def assign (path : List String) (k : String) (v : Value) (t : Table) : Option Table :=
  withTable true path (fun u =>
    if u.dotted == path.isEmpty || (u.find? k).isSome then none else some (u.insert k (.value v))) t

/-- Open the table of a header. -/
def openTable (path : List String) (k : String) (t : Table) : Option Table :=
  withTable false path (fun u =>
    match u.find? k with
    | none => some (u.insert k (.table (.mk false false [])))
    | some (.table (.mk true false es)) => some (u.insert k (.table (.mk false false es)))
    | some _ => none) t

/-- Open a further table of an array of tables. -/
def openElement (path : List String) (k : String) (t : Table) : Option Table :=
  withTable false path (fun u =>
    match u.find? k with
    | none => some (u.insert k (.tables [.mk false false []]))
    | some (.tables ts) => some (u.insert k (.tables (ts ++ [.mk false false []])))
    | some _ => none) t

end Table

mutual

def Node.toValue : Node → Value
  | .value v => v
  | .table t => t.toValue
  | .tables ts => .array (tablesToValues ts)

def Table.toValue : Table → Value
  | .mk _ _ es => .table (entriesToValues es)

def tablesToValues : List Table → List Value
  | [] => []
  | t :: ts => t.toValue :: tablesToValues ts

def entriesToValues : List (String × Node) → List (String × Value)
  | [] => []
  | (k, n) :: es => (k, n.toValue) :: entriesToValues es

end

/-- A line that says something: a header, or a key with its value. -/
inductive Statement where
  | header (path : List String) (key : String)
  | elementHeader (path : List String) (key : String)
  | assignment (path : List String) (key : String) (v : Value)

/-- The document so far and the path of the table that is open. -/
structure Builder where
  root : Table
  current : List String

def Builder.apply (b : Builder) : Statement → Option Builder
  | .header path key => (b.root.openTable path key).map fun t => ⟨t, path ++ [key]⟩
  | .elementHeader path key => (b.root.openElement path key).map fun t => ⟨t, path ++ [key]⟩
  | .assignment path key v =>
    (b.root.withTable false b.current fun t => t.assign path key v).map fun t => ⟨t, b.current⟩

/-- The table that the statements of a document build. -/
def build (statements : List Statement) : Option Value :=
  (statements.foldlM Builder.apply ⟨Table.root, []⟩).map fun b => b.root.toValue

end CompletionGateway.Toml
