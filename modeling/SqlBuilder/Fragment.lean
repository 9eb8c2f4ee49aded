import SqlBuilder.Text.Blank
import SqlBuilder.Value

/-!
# Fragments

A fragment is a piece of SQL with the values for its placeholders. Every clause is compiled to one,
and joining fragments joins text and values alike, so each value stays with its placeholder.
-/

set_option autoImplicit false

namespace SqlBuilder

/-- SQL text with the values for its placeholders, in order. -/
structure Fragment where
  sql : String
  bindings : List Value := []
  deriving Repr, Inhabited

namespace Fragment

/-- No text and no values. -/
def empty : Fragment := ⟨"", []⟩

/-- A text without placeholders of its own. -/
def ofText (s : String) : Fragment := ⟨s, []⟩

/-- One placeholder. -/
def bound (v : Value) : Fragment := ⟨"?", [v]⟩

/-- One fragment after another. -/
def append (a b : Fragment) : Fragment := ⟨a.sql ++ b.sql, a.bindings ++ b.bindings⟩

instance : Append Fragment := ⟨append⟩

/-- The fragments with a text between them. -/
def intercalate (separator : String) (fs : List Fragment) : Fragment :=
  ⟨separator.intercalate (fs.map Fragment.sql), fs.flatMap Fragment.bindings⟩

/-- The clauses of a statement: texts without the white space around them, blank ones left out,
single spaces between the others. -/
def concatenate (fs : List Fragment) : Fragment :=
  ⟨" ".intercalate ((fs.map fun f => Text.strip f.sql).filter (· != "")),
    fs.flatMap Fragment.bindings⟩

/-- The fragment in parentheses. -/
def parenthesized (f : Fragment) : Fragment := ofText "(" ++ f ++ ofText ")"

/-! ## Laws -/

@[simp] theorem sql_append (a b : Fragment) : (a ++ b).sql = a.sql ++ b.sql := rfl

@[simp] theorem bindings_append (a b : Fragment) : (a ++ b).bindings = a.bindings ++ b.bindings :=
  rfl

@[simp] theorem bindings_ofText (s : String) : (ofText s).bindings = [] := rfl

@[simp] theorem bindings_intercalate (s : String) (fs : List Fragment) :
    (intercalate s fs).bindings = fs.flatMap Fragment.bindings := rfl

@[simp] theorem bindings_concatenate (fs : List Fragment) :
    (concatenate fs).bindings = fs.flatMap Fragment.bindings := rfl

end Fragment

end SqlBuilder
