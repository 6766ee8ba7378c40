import Attestor.Toml.Moment

namespace Attestor

inductive Toml.Origin where
  /-- It stands as a value and is complete. -/
  | inline
  /-- A header of its own begins it. -/
  | header
  /-- It is a part of the dotted key of a value. -/
  | dotted
  /-- It is a part of the header of another table. -/
  | implied
deriving DecidableEq, Repr

inductive Toml where
  | text (value : String)
  | integer (value : Int)
  | float (value : Binary64)
  | bool (value : Bool)
  | moment (value : Toml.Moment)
  | array (items : List Toml)
  | table (origin : Toml.Origin) (members : List (String × Toml))
  /-- Tables that headers of one name begin, the last of which may grow. -/
  | tables (earlier : List (List (String × Toml))) (last : List (String × Toml))
deriving Repr

namespace Toml

abbrev Members := List (String × Toml)

def put (key : String) (value : Toml) : Members → Members
  | [] => [(key, value)]
  | (other, old) :: rest =>
    if other = key then (key, value) :: rest else (other, old) :: put key value rest

/-- Adds a value under a dotted key. A key has one value; the tables on the way are made here, or
have been made in the same manner. -/
def define : List String → Toml → Members → Option Members
  | [], _, _ => none
  | [key], value, members =>
    if (members.lookup key).isSome then none else some (members ++ [(key, value)])
  | key :: path, value, members =>
    match members.lookup key with
    | none => (define path value []).map fun inner => put key (table .dotted inner) members
    | some (table .dotted inner) =>
      (define path value inner).map fun inner => put key (table .dotted inner) members
    | some (table .implied inner) =>
      if path.length = 1 then none
      else (define path value inner).map fun inner => put key (table .implied inner) members
    | some (tables earlier last) =>
      if path.length = 1 then none
      else (define path value last).map fun last => put key (tables earlier last) members
    | _ => none

def within (change : Members → Option Members) : List String → Members → Option Members
  | [], members => change members
  | key :: path, members =>
    match members.lookup key with
    | none => (within change path []).map fun inner => put key (table .implied inner) members
    | some (table .inline _) => none
    | some (table origin inner) =>
      (within change path inner).map fun inner => put key (table origin inner) members
    | some (tables earlier last) =>
      (within change path last).map fun last => put key (tables earlier last) members
    | _ => none

def beginTable (key : String) (members : Members) : Option Members :=
  match members.lookup key with
  | none => some (put key (table .header []) members)
  | some (table .implied inner) => some (put key (table .header inner) members)
  | _ => none

def beginItem (key : String) (members : Members) : Option Members :=
  match members.lookup key with
  | none => some (put key (tables [] []) members)
  | some (tables earlier last) => some (put key (tables (earlier ++ [last]) []) members)
  | _ => none

def atLast (change : String → Members → Option Members) (path : List String) (members : Members) :
    Option Members :=
  path.getLast?.bind fun key => within (change key) path.dropLast members

end Toml

end Attestor
