import PeerLink.Dispatch.HandlerTable

/-!
Any number of named dispatchers over shared handler tables. A clone works on the table of the
dispatcher it was made from, a new dispatcher on a table of its own.
-/

set_option autoImplicit false
set_option relaxedAutoImplicit false

namespace PeerLink.Dispatch

/-- Tables are numbered in order of creation; for each name the newest entry counts. -/
structure Pool where
  tables : List HandlerTable := []
  names : List (String × Nat) := []

namespace Pool

def index? (name : String) (pool : Pool) : Option Nat :=
  pool.names.lookup name

def table? (name : String) (pool : Pool) : Option HandlerTable := do
  pool.tables[← pool.index? name]?

/-- The pool with a fresh, empty table under `name`. -/
def create (name : String) (pool : Pool) : Pool where
  tables := pool.tables ++ [.empty]
  names := (name, pool.tables.length) :: pool.names

/-- The pool in which `name` shares the table of `source`. -/
def share (name source : String) (pool : Pool) : Option Pool := do
  let index ← pool.index? source
  return { pool with names := (name, index) :: pool.names }

def setTable (index : Nat) (table : HandlerTable) (pool : Pool) : Pool :=
  { pool with tables := pool.tables.set index table }

def register (name : String) (type : MessageType) (handler : Handler) (pool : Pool) :
    Option (Registration × Pool) := do
  let index ← pool.index? name
  let (outcome, table) := (← pool.tables[index]?).register type handler
  return (outcome, pool.setTable index table)

def registered (name : String) (pool : Pool) : Option (List MessageType) := do
  return (← pool.table? name).registered

def dispatch (name : String) (packet : Packet) (pool : Pool) :
    Option (Except ProtocolError (Option Packet) × List Log.Event × Pool) := do
  let index ← pool.index? name
  let dispatched := (← pool.tables[index]?).dispatch packet
  return (dispatched.answer, dispatched.events, pool.setTable index dispatched.table)

end Pool

end PeerLink.Dispatch
