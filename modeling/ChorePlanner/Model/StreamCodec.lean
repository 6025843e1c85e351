/-
**The line codec of the Signal transport: `src/signal_bot/stream_codec.rs`.**

The Signal bot talks JSON-RPC with signal-cli over TCP (`tcp::connect`), one message a line: the
codec cuts the bytes it reads at the incoming separator, and appends the outgoing separator to
every message it writes.

* `StreamCodec` — the two separators; `StreamCodec.streamIncoming` takes `b'\n'` for both.
* `StreamCodec.decode` — `Decoder::decode` on the read buffer, the state: take the bytes before
  the first separator off the buffer with the separator, and return them as a string, or fail
  with `"invalid UTF-8"`; without a separator, return nothing and leave the buffer.
* `StreamCodec.encode` — `Encoder::encode` on the write buffer, the state; it never fails.
* `StreamCodec.sendAll` — `Sender::send` (`src/signal_bot/signal_cli_interface.rs`) for each
  message in turn: the bytes the framed writer puts on the connection.

The framed reader that calls `decode` after each read is `Framing.read`.
-/

import ChorePlanner.Lib.Framing

namespace ChorePlanner

/-- `std::io::Error`; the codec makes only `io::Error::new(io::ErrorKind::Other, ..)`. -/
inductive IoError where
  | other (message : String)
  deriving DecidableEq, Repr

/-- `String::into_bytes`: the UTF-8 bytes of the string. -/
def intoBytes (msg : String) : List UInt8 := msg.toUTF8.data.toList

/-- `str::from_utf8`: the string whose UTF-8 bytes these are, if they are UTF-8. -/
def fromUtf8 (bytes : List UInt8) : Option String := String.fromUTF8? bytes.toByteArray

/-- `struct StreamCodec` (`type Separator = u8`). -/
structure StreamCodec where
  incomingSeparator : UInt8
  outgoingSeparator : UInt8
  deriving DecidableEq, Repr

namespace StreamCodec

/-- `StreamCodec::stream_incoming`: `StreamCodec::new(b'\n', b'\n')`. -/
def streamIncoming : StreamCodec := ⟨10, 10⟩

@[simp] theorem streamIncoming_incomingSeparator : streamIncoming.incomingSeparator = 10 := rfl

@[simp] theorem streamIncoming_outgoingSeparator : streamIncoming.outgoingSeparator = 10 := rfl

/-- `Decoder::decode`. -/
def decode (codec : StreamCodec) : EStateM IoError (List UInt8) (Option String) := do
  let buf ← get
  match buf.findIdx? (· == codec.incomingSeparator) with
  | some i =>
    -- `buf.split_to(i)` takes the line off the buffer, `buf.split_to(1)` the separator
    let line := buf.take i
    set (buf.drop (i + 1))
    match fromUtf8 line with
    | some s => pure (some s)
    | none => throw (.other "invalid UTF-8")
  | none => pure none

/-- `Encoder::encode`. -/
def encode (codec : StreamCodec) (msg : String) : EStateM IoError (List UInt8) Unit := do
  let payload := intoBytes msg ++ [codec.outgoingSeparator]
  modify (· ++ payload)

/-- `Sender::send` for each message in turn, through the framed writer's `encode`. -/
def sendAll (codec : StreamCodec) (msgs : List String) : EStateM IoError (List UInt8) Unit :=
  msgs.forM codec.encode

end StreamCodec

end ChorePlanner
