/-
# The layout of datagrams

A datagram is a sequence of pieces, and a layout lists the kinds of piece: a zero byte, the
byte that tells the kind of packet, a byte of any value, a run of text.  This file decides
whether bytes follow a layout, by trying the ends that a run of text could have, the nearest
first, and says beside it what it means to follow one.
-/
import Lockstep.Bytes

namespace Lockstep

/-- One piece of a layout. -/
inductive Token where
  /-- One zero byte. -/
  | zero
  /-- The byte that tells the kind of packet. -/
  | control
  /-- One byte of any value. -/
  | byte
  /-- One or more bytes, none of them zero; as the last piece, whatever is left. -/
  | run
deriving DecidableEq, Repr

namespace Token

/-- Whether some non-empty run of non-zero bytes at the front can be cut off so that
`continues` holds of what is left. -/
def acceptsRun (continues : Bytes → Bool) : Bytes → Bool
  | [] => false
  | b :: rest => b ≠ 0 && (continues rest || acceptsRun continues rest)

/-- Whether the bytes, all of them, follow the layout with `control` as the byte that tells
the kind. -/
def accepts (control : UInt8) : List Token → Bytes → Bool
  | [], bytes => bytes.isEmpty
  | .zero :: layout, bytes =>
    match bytes with
    | [] => false
    | b :: rest => b = 0 && accepts control layout rest
  | .control :: layout, bytes =>
    match bytes with
    | [] => false
    | b :: rest => b = control && accepts control layout rest
  | .byte :: layout, bytes =>
    match bytes with
    | [] => false
    | _ :: rest => accepts control layout rest
  | .run :: layout, bytes => layout.isEmpty || acceptsRun (accepts control layout) bytes

/-! ## What it means to follow a layout -/

/-- The bytes that a single piece may stand for, where `last` tells whether the piece is the
last of its layout. -/
def Spells (control : UInt8) (last : Bool) : Token → Bytes → Prop
  | .zero, piece => piece = [0]
  | .control, piece => piece = [control]
  | .byte, piece => ∃ b, piece = [b]
  | .run, piece => last = true ∨ (piece ≠ [] ∧ 0 ∉ piece)

/-- The bytes can be cut into consecutive pieces, one for each token of the layout. -/
inductive Follows (control : UInt8) : List Token → Bytes → Prop where
  | done : Follows control [] []
  | piece {token : Token} {layout : List Token} {front rest : Bytes}
      (spells : token.Spells control layout.isEmpty front)
      (follows : Follows control layout rest) :
      Follows control (token :: layout) (front ++ rest)

end Token

end Lockstep
