import ContextBaggage.Abort
import ContextBaggage.Text.Case
import Std.Data.TreeMap

/-!
# Carriers

What takes fields from one process to another. A carrier that can be written is an injector, and
one that can be read gives an extractor. Names of fields are not told apart by case: a header map
keeps them in lower case, the environment of a child process in upper case.
-/

namespace ContextBaggage

open ContextBaggage.Text

class Injector (κ : Type) where
  set : κ → (field value : String) → κ

structure Extractor where
  get? : String → Option String
  keys : Except Abort (List String)

/-- A carrier holds at most one value for a field. -/
def Extractor.getAll? (e : Extractor) (field : String) : Option (List String) :=
  (e.get? field).map fun value => [value]

structure HeaderMap where
  headers : Std.TreeMap String String

namespace HeaderMap

def empty : HeaderMap := ⟨∅⟩

/-- Puts a header under exactly this name, as another program might. -/
def insert (m : HeaderMap) (name value : String) : HeaderMap := ⟨m.headers.insert name value⟩

def set (m : HeaderMap) (field value : String) : HeaderMap := m.insert (lower field) value

def get? (m : HeaderMap) (field : String) : Option String := m.headers[lower field]?

def keys (m : HeaderMap) : List String := m.headers.keys

instance : Injector HeaderMap := ⟨set⟩

def extractor (m : HeaderMap) : Extractor := ⟨m.get?, .ok m.keys⟩

end HeaderMap

structure ChildEnvironment where
  assignments : Std.TreeMap String String

namespace ChildEnvironment

def empty : ChildEnvironment := ⟨∅⟩

def set (e : ChildEnvironment) (field value : String) : ChildEnvironment :=
  ⟨e.assignments.insert (upper field) value⟩

instance : Injector ChildEnvironment := ⟨set⟩

end ChildEnvironment

end ContextBaggage
