import StakingIncome.Json.Node

/-!
From tokens to trees. The arrays and objects that are open form a stack of frames, the innermost
first, and each token is put in its place or shows that the text is no JSON.
-/

namespace StakingIncome.Json

/-- An array or an object of which only the begin was read, with its parts in reverse. An object may
have a key whose value is still to come. -/
inductive Frame where
  | array (items : List Node)
  | object (members : List Member) (pending : Option Key)

/-- What may come next. A value or a key may be the first one in its brackets, which can be closed
instead. -/
inductive Place where
  | value
  | firstItem
  | afterItem
  | key
  | firstKey
  | colon
  | afterMember
  deriving DecidableEq, Repr

/-- A tree with whether anything but spaces follows it in the text. -/
structure Document where
  root : Node
  trailing : Bool

/-- How far a text has been read: up to some place within frames, or through its value. -/
inductive Progress where
  | inside (place : Place) (frames : List Frame)
  | finished (document : Document)

namespace Progress

def start : Progress :=
  inside .value []

/-- Put a complete value where it belongs. -/
def put (node : Node) : List Frame → Progress
  | [] => finished { root := node, trailing := false }
  | .array items :: frames => inside .afterItem (.array (node :: items) :: frames)
  | .object members (some name) :: frames =>
    inside .afterMember (.object ((name, node) :: members) none :: frames)
  | .object members none :: frames => inside .afterMember (.object members none :: frames)

/-- The tree of a text that stops inside the frames, with the value that was due, if one was. In an
object without pending key, the key was due as well. -/
def unclosed (breach : Breach) (due : Option Node) : List Frame → Node
  | [] => due.getD (.broken breach)
  | .array items :: frames =>
    unclosed breach (some (.array (due.toList ++ items).reverse (some breach))) frames
  | .object members pending :: frames =>
    let last := due.toList.map fun node => (pending.getD (.error breach.reading), node)
    unclosed breach (some (.object (last ++ members).reverse (some breach))) frames

/-- Stop at a breach. Where a value is due it is broken, and so is the value of a key that is still
due or has no colon. -/
def stop (breach : Breach) (place : Place) (frames : List Frame) : Progress :=
  let due := match place with
    | .value | .firstItem | .key | .firstKey | .colon => some (.broken breach)
    | .afterItem | .afterMember => none
  finished { root := unclosed breach due frames, trailing := false }

/-- A token where a value may begin, and where an array may be closed if none of its items was
read. -/
def valueToken (place : Place) (frames : List Frame) : Token → Progress
  | .scalar scalar => put (.scalar scalar) frames
  | .openArray => inside .firstItem (.array [] :: frames)
  | .openObject => inside .firstKey (.object [] none :: frames)
  | .brokenString breach => stop breach place frames
  | .brokenValue breach => stop breach place frames
  | .closeArray =>
    match place, frames with
    | .firstItem, .array items :: frames => put (.array items.reverse none) frames
    | _, _ => stop (.of .malformed) place frames
  | _ => stop (.of .malformed) place frames

/-- A token where a key may begin, and where an object may be closed if none of its members was
read. -/
def keyToken (place : Place) (frames : List Frame) (token : Token) : Progress :=
  match token, place, frames with
  | .scalar (.string name), _, .object members _ :: frames =>
    inside .colon (.object members (some (Key.ofString name)) :: frames)
  | .brokenString breach, _, _ => stop breach place frames
  | .closeObject, .firstKey, .object members _ :: frames =>
    put (.object members.reverse none) frames
  | _, _, _ => stop (.of .malformed) place frames

/-- A token behind a complete item or member. -/
def commaToken (place : Place) (frames : List Frame) (token : Token) : Progress :=
  match token, place, frames with
  | .comma, .afterItem, _ => inside .value frames
  | .comma, _, _ => inside .key frames
  | .closeArray, .afterItem, .array items :: frames => put (.array items.reverse none) frames
  | .closeObject, .afterMember, .object members _ :: frames =>
    put (.object members.reverse none) frames
  | _, _, _ => stop (.of .malformed) place frames

def step : Progress → Token → Progress
  | finished document, _ => finished { document with trailing := true }
  | inside place frames, token =>
    match place with
    | .value | .firstItem => valueToken place frames token
    | .key | .firstKey => keyToken place frames token
    | .afterItem | .afterMember => commaToken place frames token
    | .colon =>
      match token with
      | .colon => inside .value frames
      | _ => stop (.of .malformed) place frames

/-- The document when the text has come to its end. -/
def finish : Progress → Document
  | finished document => document
  | inside place frames =>
    match stop (.of .endOfText) place frames with
    | finished document => document
    | inside _ _ => { root := .broken (.of .endOfText), trailing := false }

/-- Read on to the end of a text. -/
def run (progress : Progress) (text : List Char) : Progress :=
  match _found : nextToken? (text.dropWhile isSpace) with
  | none => progress
  | some (token, rest) => run (progress.step token) rest
termination_by text.length
decreasing_by
  have shorter := length_rest_nextToken? _found
  have := (List.dropWhile_suffix (l := text) isSpace).length_le
  omega

end Progress

def Document.read (text : List Char) : Document :=
  (Progress.start.run text).finish

end StakingIncome.Json
