import SqlBuilder.Builder.Fetching
import SqlBuilder.Builder.Transaction

/-!
# Writing

Inserts, updates and deletes. A row to insert is a map; a list is a batch, which is inserted row by
row in one transaction, and a row of a batch may again be a batch.
-/

set_option autoImplicit false

namespace SqlBuilder.Builder

open SqlBuilder.Session

/-- Inserts a row; its identifier, if exactly one row was inserted. -/
def insertRow (b : Nat) (op : Operation) (row : Value) : Action Value := do
  let q ← compileAs b (.ok op) [row]
  run b .insert q do
    let affected ← Driver.execute q.sql q.bindings
    let single ← Driver.ofResult (affected.equals (.int 1))
    let id ← if single then Driver.insertId else pure .null
    pure (id, [(Event.insertId, id)])

/-- Inserts a batch in the open transaction or in one of its own. -/
def insertBatch (b : Nat) (rows : Nat → Action (List Value)) : Action Value := do
  if ← inTransaction (← connectionOf b) then pure (.list (← rows b))
  else
    let (_, ids) ← transaction b rows
    pure (.list ids)

mutual

/-- Inserts a row or a batch; its identifier or identifiers. The characters of a text are batches of
characters without end, as are the names of the parts of a column; the numbers of a byte string are
no rows. -/
def insert (op : Operation) : Value → Nat → Action Value
  | .map entries, b => insertRow b op (.map entries)
  | .list rows, b | .tuple rows, b =>
    if rows.isEmpty then pure (.list []) else insertBatch b fun t => insertAll op rows t
  | .text s, b =>
    if s = "" then pure (.list []) else insertBatch b fun _ => throw (.misuse .recursion)
  | .column _, b => insertBatch b fun _ => throw (.misuse .recursion)
  | .bytes octets, b =>
    if octets.isEmpty then pure (.list []) else insertBatch b fun _ => throw (.misuse .wrongType)
  | _, _ => throw (.misuse .wrongType)

/-- Inserts rows one after another. -/
def insertAll (op : Operation) : List Value → Nat → Action (List Value)
  | [], _ => pure []
  | row :: rows, b => do
    let id ← insert op row b
    pure (id :: (← insertAll op rows b))

end

/-- Updates the rows of the query; how many there were. -/
def update (b : Nat) (row : Value) : Action Value := do
  runPlain b .update (← compileAs b (.ok .update) [row]) Driver.execute

/-- Deletes the rows of the query; how many there were. -/
def delete (b : Nat) (columns : Value) : Action Value := do
  runPlain b .delete (← compileAs b (.ok .delete) [columns]) Driver.execute

/-- Updates the rows of the query if there are any, else inserts. -/
def updateOrInsert (b : Nat) (row : Value) : Action Value := do
  if ← exists? b then update b row else insert .insert row b

end SqlBuilder.Builder
