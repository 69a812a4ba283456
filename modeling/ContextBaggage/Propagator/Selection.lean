import ContextBaggage.Environment
import ContextBaggage.Propagator

/-!
# Selecting propagators by name

The propagators of a process are named in a variable: a list between commas, in any case, with
white space around the names. Without a value, or with white space only, it is as if `baggage`
were named. The name `none` switches everything off wherever it stands; a name that is not known
leaves an event.
-/

namespace ContextBaggage.Propagator

open ContextBaggage.Text

variable {Slot : Type} {Value : Slot → Type}

namespace Selection

def variableName : String := "OTEL_PROPAGATORS"

def defaultName : String := "baggage"

def offName : String := "none"

/-- The names in a list, each one once, in the order in which they first stand there. -/
def split (value : String) : List String :=
  let names := (value.toList.splitOn ',').map fun name => lower (trimmed (String.ofList name))
  (names.filter fun name => !name.isEmpty).eraseDups

def names (value : String) : List String :=
  split (if (trimmed value).isEmpty then defaultName else value)

def known? (name : String) : Option (Propagator Value) :=
  if name = defaultName then some (baggage defaultField) else none

end Selection

open Selection

def select (names : List String) : Logged (List (Propagator Value)) :=
  if names.contains offName then pure []
  else
    ⟨names.filterMap known?,
      (names.filter fun name => (known? name : Option (Propagator Value)).isNone).map
        Event.unknownPropagator⟩

/-- The propagators that the environment asks for. A value that is no text counts as none. -/
def fromEnvironment (env : Environment) : Logged (List (Propagator Value)) :=
  select (names ((env.text? variableName).getD ""))

end ContextBaggage.Propagator
