import LiveService.Json.Basic

/-!
The shape of a document as it is read: its tokens in document order, up to the first fault.  A
fault is part of the tree, at the place where reading stopped, because a reader of typed values may
have a complaint about something that stands before it.
-/

namespace LiveService.Json

/-- Why the tokens of a document end early: the bytes run out, or cannot go on like this. -/
inductive Fault where
  | truncated
  | malformed
  deriving DecidableEq

/-- What stands between the quotes of a text: plain bytes, escaped bytes and escaped code units. -/
inductive Piece where
  | plain (octet : UInt8)
  | unit (code : Nat)

structure Literal where
  pieces : List Piece
  fault : Option Fault

structure Numeral where
  negative : Bool
  whole : Bytes
  fraction : Option Bytes
  exponent : Option (Bool × Bytes)

mutual

inductive Node where
  | absent
  | broken (fault : Fault)
  | unfinished
  | null
  | bool (value : Bool)
  | number (numeral : Numeral)
  | text (literal : Literal)
  | array (items : Items)
  | object (members : Members)

inductive Items where
  | close
  | stop (fault : Fault)
  | item (node : Node) (rest : Items)

inductive Members where
  | close
  | stop (fault : Fault)
  | dangling (fault : Fault)
  | member (key : Literal) (value : Node) (rest : Members)

end

end LiveService.Json
