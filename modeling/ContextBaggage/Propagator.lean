import ContextBaggage.Baggage.Update
import ContextBaggage.Carrier
import ContextBaggage.Context
import ContextBaggage.Header.Format
import ContextBaggage.Header.Report

/-!
# Propagators

A propagator takes something of a context across a process boundary. It says which fields it uses,
what it writes for a context, and how a context changes by what it reads. Writing cannot look at
the carrier, so what is written is a list of fields with their values, and injecting sets them one
after the other.
-/

namespace ContextBaggage

open ContextBaggage.Text

variable {Slot : Type}

structure Propagator (Value : Slot → Type) where
  fields : List String
  writes : Context Value → List (String × String)
  extract : Extractor → Context Value → Logged (Context Value)

namespace Propagator

variable {Value : Slot → Type} {κ : Type} [Injector κ]

def inject (p : Propagator Value) (cx : Context Value) (carrier : κ) : κ :=
  (p.writes cx).foldl (fun c (field, value) => Injector.set c field value) carrier

def noop : Propagator Value := ⟨[], fun _ => [], fun _ cx => pure cx⟩

def defaultField : String := "baggage"

/-- The field for a chosen name: in lower case, or the default one if that is white space only. -/
def fieldFor (name : String) : String :=
  if (trimmed (lower name)).isEmpty then defaultField else lower name

def skipEvents (r : Header.Report) : List Event :=
  match r.skipped with
  | [] => []
  | first :: _ => [.membersSkipped r.skippedCount first]

/-- Carries baggage as a header. Empty baggage is not written, and a field that is there replaces
the baggage of the context, whatever could be read of it. -/
def baggage (name : String) : Propagator Value where
  fields := [fieldFor name]
  writes cx := if cx.baggage.isEmpty then [] else [(fieldFor name, cx.baggage.header)]
  extract e cx :=
    match e.get? (fieldFor name) with
    | none => pure cx
    | some value =>
      let report := Header.report value
      ⟨cx.withBaggage report.baggage, skipEvents report⟩

/-- Several propagators one after the other, each going on from the context that the one before it
left. A field of more than one is listed once. -/
def composite (ps : List (Propagator Value)) : Propagator Value where
  fields := (ps.flatMap fields).eraseDups
  writes cx := ps.flatMap fun p => p.writes cx
  extract e cx := ps.foldlM (fun cx p => p.extract e cx) cx

end Propagator

end ContextBaggage
