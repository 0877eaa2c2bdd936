/-!
# Documents

What a text in one of the data formats denotes: a tree of scalars, lists and tables. Tables keep
their members in the order of the text.
-/

namespace DirectoryLogin.Document

/-- A node of a document. -/
inductive Value where
  | null
  | bool (value : Bool)
  | integer (value : Int)
  /-- A number that is not written as an integer, by its literal. -/
  | decimal (literal : String)
  /-- A number that cannot be read, by its literal: it is too large or has characters that are no
  digits. -/
  | unreadable (literal : String)
  /-- A date, a time, or both, by its literal. -/
  | moment (literal : String)
  | text (value : String)
  | list (items : List Value)
  | table (members : List (String × Value))
  deriving Inhabited, BEq

namespace Value

def member? (name : String) : Value → Option Value
  | .table members => members.lookup name
  | _ => none

mutual

def isReadable : Value → Bool
  | .unreadable _ => false
  | .list items => areReadable items
  | .table members => membersReadable members
  | _ => true

def areReadable : List Value → Bool
  | [] => true
  | v :: rest => v.isReadable && areReadable rest

def membersReadable : List (String × Value) → Bool
  | [] => true
  | (_, v) :: rest => v.isReadable && membersReadable rest

end

end Value

end DirectoryLogin.Document
