import StakingIncome.Json.Token

/-!
JSON texts as trees. A tree may stand for the begin of a text that stops being JSON: the value
that was being read is broken then, and so is each array and each object around it. All of them
carry the same breach, so that a value which nobody asks for is skipped by a look at its outermost
bracket.
-/

namespace StakingIncome.Json

/-- The key of a member, or the flaw that shows when it is read. -/
abbrev Key := Except Flaw String

/-- The key that a string gives. One without content holds half a surrogate pair. -/
def Key.ofString : Option String → Key
  | some name => .ok name
  | none => .error .malformed

/-- The parts of an object keep the order of the text. -/
inductive Node where
  | scalar (scalar : Scalar)
  | array (items : List Node) (breach : Option Breach)
  | object (members : List (Key × Node)) (breach : Option Breach)
  | broken (breach : Breach)

abbrev Member := Key × Node

namespace Node

def breach? : Node → Option Breach
  | scalar _ => none
  | array _ breach => breach
  | object _ breach => breach
  | broken breach => some breach

/-- Pass over a value without reading it. -/
def skip (node : Node) : Except DecodeFault Unit :=
  match node.breach? with
  | some breach => .error (.flaw breach.skipping)
  | none => .ok ()

/-- Come to the end of an array or an object. -/
def close : Option Breach → Except DecodeFault Unit
  | some breach => .error (.flaw breach.reading)
  | none => .ok ()

/-- Read the key of a member. -/
def key (name : Key) : Except DecodeFault String :=
  name.mapError .flaw

/-- The fault of a tree that is no value of the form asked for. What has no parts is read before its
form is looked at, and brackets are not opened. -/
def unexpected : Node → DecodeFault
  | broken breach => .flaw breach.reading
  | scalar (.string none) => .malformed
  | _ => .unexplained

/-- Read a value that has to be a string. -/
def text : Node → Except DecodeFault String
  | scalar (.string (some content)) => .ok content
  | node => .error node.unexpected

end Node

end StakingIncome.Json
