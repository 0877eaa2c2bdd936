import DirectoryLogin.Document.Value

/-!
# Tables under construction

A table of a TOML document is defined once: by its own header, or by the dotted keys that pass
through it. A header may define a table that earlier headers only passed through. What is assigned
as a value is closed.
-/

namespace DirectoryLogin.Toml

open Document (Value)

/-- How an open table came to be. -/
inductive Origin where
  /-- Headers of tables below it passed through. -/
  | implied
  /-- By its own header. -/
  | header
  /-- Dotted keys passed through. -/
  | dotted
  deriving DecidableEq

/-- A member of a table under construction. -/
inductive Node where
  | value (v : Value)
  | table (origin : Origin) (members : List (String × Node))
  /-- A list of tables, each begun by a header; the last one is open. -/
  | tables (items : List (List (String × Node)))

abbrev Members := List (String × Node)

namespace Members

def put (name : String) (node : Node) (ms : Members) : Members :=
  ms.map fun m => if m.1 == name then (name, node) else m

def changeLast (change : Members → Option Members) (items : List Members) : Option (List Members) :=
  match items.reverse with
  | [] => none
  | last :: before => (change last).map fun last => (last :: before).reverse

/-- Changes the table at the end of a path of headers, creating tables on the way. -/
def within (change : Members → Option Members) : List String → Members → Option Members
  | [], ms => change ms
  | name :: path, ms =>
      match ms.lookup name with
      | none => (within change path []).map fun inner => ms ++ [(name, .table .implied inner)]
      | some (.table origin inner) =>
          (within change path inner).map fun inner => ms.put name (.table origin inner)
      | some (.tables items) =>
          (changeLast (within change path) items).map fun items => ms.put name (.tables items)
      | some (.value _) => none

/-- Begins the table with this name. -/
def define (name : String) (ms : Members) : Option Members :=
  match ms.lookup name with
  | none => some (ms ++ [(name, .table .header [])])
  | some (.table .implied inner) => some (ms.put name (.table .header inner))
  | _ => none

/-- Begins the next table of the list with this name. -/
def append (name : String) (ms : Members) : Option Members :=
  match ms.lookup name with
  | none => some (ms ++ [(name, .tables [[]])])
  | some (.tables items) => some (ms.put name (.tables (items ++ [[]])))
  | _ => none

/-- Assigns a value to a dotted key. The last table on the way must be one of dotted keys. -/
def assign (name : String) (v : Value) : List String → Members → Option Members
  | [], ms => if (ms.lookup name).isSome then none else some (ms ++ [(name, .value v)])
  | step :: path, ms =>
      match ms.lookup step with
      | none => (assign name v path []).map fun inner => ms ++ [(step, .table .dotted inner)]
      | some (.table .dotted inner) =>
          (assign name v path inner).map fun inner => ms.put step (.table .dotted inner)
      | some (.table .implied inner) =>
          if path.isEmpty then none
          else (assign name v path inner).map fun inner => ms.put step (.table .implied inner)
      | some (.tables items) =>
          if path.isEmpty then none
          else (changeLast (assign name v path) items).map fun items => ms.put step (.tables items)
      | some (.table .header _) | some (.value _) => none

end Members

mutual

def Node.finish : Node → Value
  | .value v => v
  | .table _ members => .table (finishAll members)
  | .tables items => .list (finishEach items)

def finishAll : List (String × Node) → List (String × Value)
  | [] => []
  | (name, node) :: rest => (name, node.finish) :: finishAll rest

def finishEach : List (List (String × Node)) → List Value
  | [] => []
  | members :: rest => .table (finishAll members) :: finishEach rest

end

end DirectoryLogin.Toml
