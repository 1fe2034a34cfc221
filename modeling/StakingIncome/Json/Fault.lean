/-!
What can be wrong with a JSON text. A text is read from left to right, and the first problem in it
is the one that counts.
-/

namespace StakingIncome.Json

/-- How a text fails to be JSON: it ends too early, or it goes on in a way that no JSON text does.
-/
inductive Flaw where
  | endOfText
  | malformed
  deriving DecidableEq, Repr

/-- The place where a text stops being JSON. A value that nobody asks for is skipped instead of
read, and a flaw in it may then show in another way: a skipped number that the end of the text
cuts off is malformed, and a skipped string may hold one half of a surrogate pair. -/
structure Breach where
  reading : Flaw
  skipping : Flaw
  deriving DecidableEq, Repr

namespace Breach

def of (flaw : Flaw) : Breach where
  reading := flaw
  skipping := flaw

end Breach

/-- Why a text does not give the value that was asked for: it is no JSON, or its values have another
form, which some faults explain in words. -/
inductive DecodeFault where
  | flaw (flaw : Flaw)
  | mismatch (explanation : Option String)
  deriving DecidableEq, Repr

namespace DecodeFault

def malformed : DecodeFault :=
  .flaw .malformed

def unexplained : DecodeFault :=
  .mismatch none

def explained (message : String) : DecodeFault :=
  .mismatch (some message)

end DecodeFault

end StakingIncome.Json
