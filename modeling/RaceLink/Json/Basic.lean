import RaceLink.Decimal.Shortest

/-!
# JSON values

A tree keeps the members of an object as they were written, in order and with repetitions.  What a
reader of the tree sees is its *canonical* form: members sorted by name, the last of several
members of one name kept.

* `Number` — the three kinds of number a text can denote: integers that fit sixty-four bits, with
  or without a sign, and floating point numbers for all the rest.
* `Json.canonical` — sorts the members of every object and drops all but the last of each name.
* `Json.member?` — the value of a member.
-/

set_option autoImplicit false

namespace RaceLink

/-- A number as read from a text. -/
inductive Number where
  /-- A natural number below `2^64`. -/
  | natural (n : Nat)
  /-- The integer `-n`, with `0 < n ≤ 2^63`. -/
  | negative (n : Nat)
  | real (x : Float)

/-- A value. -/
inductive Json where
  | null
  | flag (b : Bool)
  | number (n : Number)
  | text (s : String)
  | array (items : List Json)
  | object (members : List (String × Json))

namespace Json

/-- The way floating point numbers are written: in full from `0.00001` up to sixteen digits before
the point, otherwise with an exponent of at least two digits. -/
def realStyle : Decimal.Style := ⟨some (-5, 15), 2, "null", "null"⟩

/-! ## Canonical form -/

/-- Puts a member in its place among sorted members; one of the same name is replaced. -/
def place (name : String) (v : Json) : List (String × Json) → List (String × Json)
  | [] => [(name, v)]
  | (n, w) :: rest =>
    if name < n then (name, v) :: (n, w) :: rest
    else if n = name then (name, v) :: rest
    else (n, w) :: place name v rest

/-- Members sorted by name, the last of each name kept. -/
def arrange (members : List (String × Json)) : List (String × Json) :=
  members.foldl (fun sorted m => place m.1 m.2 sorted) []

mutual

/-- The tree with the members of all its objects arranged. -/
def canonical : Json → Json
  | array items => array (canonicalItems items)
  | object members => object (arrange (canonicalMembers members))
  | v => v

/-- `canonical` on the items of an array. -/
def canonicalItems : List Json → List Json
  | [] => []
  | v :: rest => canonical v :: canonicalItems rest

/-- `canonical` on the members of an object, in the order they have. -/
def canonicalMembers : List (String × Json) → List (String × Json)
  | [] => []
  | (n, v) :: rest => (n, canonical v) :: canonicalMembers rest

end

/-- The value of the first member of a name; in a canonical object there is at most one. -/
def member? (name : String) (members : List (String × Json)) : Option Json :=
  (members.find? (·.1 == name)).map (·.2)

end Json
end RaceLink
