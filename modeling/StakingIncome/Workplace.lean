import StakingIncome.Directory
import StakingIncome.Ledger.Journal

/-!
Where exports run: files can be read and written there, and events can be told. A workplace is a
directory with all that has been told so far; any other surroundings do the same to the outside.
-/

namespace StakingIncome

/-- What an export needs of the monad that it runs in. Reading and writing may fail, and what
fails has no effect. -/
class Surroundings (m : Type → Type) where
  read : String → m (Except Fault ByteArray)
  write : String → String → m (Except Fault Unit)
  tell : Event → m Unit

structure Workplace where
  directory : Directory
  /-- The events so far, in their order. -/
  events : List Event

namespace Workplace

def tell (event : Event) (workplace : Workplace) : Workplace :=
  { workplace with events := workplace.events ++ [event] }

/-- The workplace after a file was written, and whether it was. -/
def write (path text : String) (workplace : Workplace) : Except Fault Unit × Workplace :=
  match workplace.directory.write path text with
  | .ok directory => (.ok (), { workplace with directory })
  | .error fault => (.error fault, workplace)

instance : Surroundings (StateM Workplace) where
  read path workplace := (workplace.directory.read path, workplace)
  write := write
  tell event workplace := ((), workplace.tell event)

end Workplace

end StakingIncome
