import SqlBuilder.Fault
import SqlBuilder.Statements

/-!
# Members of unions

The statements of a member of a union are an object of their own. Several unions may have it, since
a union takes over the members of the one it is made with, and a builder may be set to work on it.
Statements hold those of their members as values; which object that is, is told by the `identity` of
the entry.

`Statements.toldApart` gives every entry an identity that has none. `Statements.mirrored` brings the
members with certain identities up to date. A member is no longer brought up to date where it has
come to be a member of itself; such statements have no text in the end.
-/

set_option autoImplicit false

namespace SqlBuilder.Statements

mutual

/-- Every member without an identity, at any depth, gets one that starts with its place and leads to
`path`. -/
def toldApart (path : List Nat) : Statements → Statements
  | s@{ unions, .. } => { s with unions := toldApartUnions path unions }

/-- The members of a union are told apart. -/
def toldApartUnions (path : List Nat) : Option (List UnionEntry) → Option (List UnionEntry)
  | none => none
  | some entries => some (toldApartMembers path 0 entries)

/-- Members of a union are told apart, the first of which stands in a given place. -/
def toldApartMembers (path : List Nat) (place : Nat) : List UnionEntry → List UnionEntry
  | [] => []
  | { statements, type, identity } :: entries =>
    ⟨toldApart (place :: path) statements, type,
        if identity.isEmpty then place :: path else identity⟩ ::
      toldApartMembers path (place + 1) entries

end

mutual

/-- The members with one of the identities, at any depth, have other statements. -/
def mirrored : Statements → List (List Nat) → Statements → Statements
  | s@{ unions, .. }, identities, st => { s with unions := mirroredUnions unions identities st }

/-- So have those among the members of a union. -/
def mirroredUnions :
    Option (List UnionEntry) → List (List Nat) → Statements → Option (List UnionEntry)
  | none, _, _ => none
  | some entries, identities, st => some (mirroredMembers entries identities st)

/-- So have those among members of a union. -/
def mirroredMembers : List UnionEntry → List (List Nat) → Statements → List UnionEntry
  | [], _, _ => []
  | { statements, type, identity } :: entries, identities, st =>
    ⟨if identities.contains identity then st else mirrored statements identities st, type,
        identity⟩ ::
      mirroredMembers entries identities st

end

/-- The member in a place of the union. -/
def member (s : Statements) (place : Nat) : Result UnionEntry :=
  match s.unions with
  | none => misuse .wrongType
  | some entries =>
    match entries[place]? with
    | none => misuse .missingPlace
    | some e => .ok e

end SqlBuilder.Statements
