namespace ContractTypings

structure Overloads (α : Type) where
  groups : List (String × List α) := []
  deriving Repr, DecidableEq

namespace Overloads

variable {α : Type}

def insertInto (name : String) (item : α) : List (String × List α) → List (String × List α)
  | [] => [(name, [item])]
  | (n, items) :: groups =>
    if n = name then (n, items ++ [item]) :: groups else (n, items) :: insertInto name item groups

def insert (o : Overloads α) (name : String) (item : α) : Overloads α :=
  ⟨insertInto name item o.groups⟩

def ofList (items : List (String × α)) : Overloads α :=
  items.foldl (fun o entry => o.insert entry.1 entry.2) {}

def get? (o : Overloads α) (name : String) : Option (List α) :=
  (o.groups.find? fun group => group.1 == name).map Prod.snd

def size (o : Overloads α) : Nat := o.groups.length

def isEmpty (o : Overloads α) : Bool := o.groups.isEmpty

def items (o : Overloads α) : List α := o.groups.flatMap Prod.snd

end Overloads

end ContractTypings
