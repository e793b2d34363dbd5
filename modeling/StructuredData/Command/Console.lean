import StructuredData.Notice
import StructuredData.Workspace.Basic

/-!
# Consoles

What a run from the command line writes, and how it ends.
-/

namespace StructuredData.Command

/-- What a run has written so far. -/
structure Console where
  log : Log := #[]
  output : String := ""
  /-- Remarks that are no part of the output. -/
  remarks : String := ""

/-- Why a run ends early. -/
inductive Failure where
  /-- The run was asked for in a wrong way, and how so if there is more to say. -/
  | usage (message : Option String)
  | fault (f : Fault)
  deriving Repr, DecidableEq

/-- The exit code of a run. -/
def Failure.exitCode : Failure → Nat
  | usage _ => 2
  | fault _ => 1

/-- A run that writes and may end early. -/
abbrev Run (α : Type) := ExceptT Failure (StateM Console) α

namespace Run

/-- Writes a line of output. -/
def print (line : String) : Run Unit :=
  modify fun c => { c with output := c.output ++ line ++ "\n" }

/-- Writes lines of output. -/
def printAll : List String → Run Unit
  | [] => return ()
  | line :: rest => do
    print line
    printAll rest

/-- Makes a remark. -/
def remark (line : String) : Run Unit :=
  modify fun c => { c with remarks := c.remarks ++ line ++ "\n" }

/-- A computation that gives notices, as a run. -/
def ofLogged {α : Type} (act : Logged α) : Run α :=
  ExceptT.mk fun c =>
    let (r, log) := StateT.run (ExceptT.run act) c.log
    (r.mapError .fault, { c with log })

/-- A computation that may fail, as a run. -/
def ofExcept {α : Type} (r : Except Fault α) : Run α := ofLogged (liftExcept r)
where
  /-- A computation that gives no notices. -/
  liftExcept : Except Fault α → Logged α
    | .ok a => return a
    | .error f => throw f

end Run

end StructuredData.Command
