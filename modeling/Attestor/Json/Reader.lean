import Attestor.Json.Token

namespace Attestor.Json

inductive Frame where
  | items (held : List Json)
  | members (held : List (Text × Json))
  /-- An object whose last key waits for its value. -/
  | member (held : List (Text × Json)) (name : Text)

inductive Reading where
  | value (stack : List Frame)
  /-- A container has just been opened and may be closed at once. -/
  | opened (stack : List Frame)
  /-- A comma in an object calls for another key. -/
  | key (stack : List Frame)
  | colon (stack : List Frame)
  /-- A value in a container is complete. -/
  | next (stack : List Frame)
  | done (item : Json)

def Reading.feed (item : Json) : List Frame → Option Reading
  | [] => some (.done item)
  | .items held :: stack => some (.next (.items (item :: held) :: stack))
  | .member held name :: stack => some (.next (.members ((name, item) :: held) :: stack))
  | .members _ :: _ => none

def Reading.start (stack : List Frame) : Token → Option Reading
  | .openArray => some (.opened (.items [] :: stack))
  | .openObject => some (.opened (.members [] :: stack))
  | .null => feed .null stack
  | .bool truth => feed (.bool truth) stack
  | .num numeral => feed (.num numeral) stack
  | .str text => feed (.str text) stack
  | _ => none

def Reading.step : Reading → Token → Option Reading
  | .value stack, token => start stack token
  | .opened (.items held :: stack), .closeArray => feed (.arr held.reverse) stack
  | .opened (.items held :: stack), token => start (.items held :: stack) token
  | .opened (.members held :: stack), .closeObject => feed (.obj held.reverse) stack
  | .opened (.members held :: stack), .str name => some (.colon (.member held name :: stack))
  | .key (.members held :: stack), .str name => some (.colon (.member held name :: stack))
  | .colon stack, .colon => some (.value stack)
  | .next (.items held :: stack), .comma => some (.value (.items held :: stack))
  | .next (.items held :: stack), .closeArray => feed (.arr held.reverse) stack
  | .next (.members held :: stack), .comma => some (.key (.members held :: stack))
  | .next (.members held :: stack), .closeObject => feed (.obj held.reverse) stack
  | _, _ => none

def Reading.result? : Reading → Option Json
  | .done item => some item
  | _ => none

def ofTokens? (tokens : List Token) : Option Json :=
  (tokens.foldlM Reading.step (.value [])).bind Reading.result?

def parse? (pieces : List Piece) : Option Json :=
  (tokens? pieces).bind ofTokens?

def ofString? (text : String) : Option Json :=
  parse? (Attestor.Text.ofString text)

def ofBytes? (bytes : List UInt8) : Option Json :=
  parse? (Attestor.Text.pieces bytes)

end Attestor.Json
