/-
**Separator framing: frames cut out of a stream by a separator symbol.**

A framed reader keeps a buffer of what it has read and not yet handed over. After each read it
appends the chunk to the buffer and calls its decoder until the decoder asks for more input
(`drain`, `read`); an error of the decoder is handed over and ends the stream (`Delivery`). A
separator decoder (`sepDecoder`) cuts the buffer at its first separator, parses the part before
it and drops the separator.

* `frames` — frames written one after another, each followed by the separator. Every stream is
  `frames ms ++ rest` with no separator in the frames or the rest (`exists_frames`), in one way
  only (`frames_append_inj`).
* `sepDecoder_frame`, `sepDecoder_none` — one call of a separator decoder.
* `drain_frames` — draining a buffer `frames ms ++ rest` hands over what `deliver` says: each
  frame parsed, up to the first that fails.
* `read_eq_deliver` — whatever the chunks a stream arrives in, the reader hands over the parsed
  complete frames of the whole stream; `read_eq_read_flatten`: how the stream is cut into reads
  does not matter.
* `frames_intercalate_flatMap` — an encoding that sends the line break to the separator alone
  commutes with framing: a text, encoded and followed by the separator, is the frames of its
  encoded lines (which hold no separator when no other symbol's encoding does).
-/

import ChorePlanner.Lib.Text

namespace Framing

variable {ε α β γ : Type}

/-! ## Streams of frames -/

section Frames

variable (sep : α)

/-- The stream of the frames `ms` written one after another, each followed by `sep`. -/
def frames (ms : List (List α)) : List α := ms.flatMap (· ++ [sep])

@[simp] theorem frames_nil : frames sep [] = [] := rfl

@[simp] theorem frames_cons (m : List α) (ms : List (List α)) :
    frames sep (m :: ms) = m ++ sep :: frames sep ms := by
  simp [frames]

@[simp] theorem frames_append (ms ms' : List (List α)) :
    frames sep (ms ++ ms') = frames sep ms ++ frames sep ms' :=
  List.flatMap_append

/-- A stream holds at least one symbol for each frame: its separator. -/
theorem length_le_length_frames (ms : List (List α)) : ms.length ≤ (frames sep ms).length := by
  induction ms with
  | nil => simp
  | cons m ms ih => simp; omega

/-- Frames and a rest, none of which holds the separator. -/
def Framed (ms : List (List α)) (rest : List α) : Prop := (∀ m ∈ ms, sep ∉ m) ∧ sep ∉ rest

variable {sep}

theorem Framed.nil {rest : List α} (free : sep ∉ rest) : Framed sep [] rest :=
  ⟨by simp, free⟩

theorem Framed.cons_iff {m : List α} {ms : List (List α)} {rest : List α} :
    Framed sep (m :: ms) rest ↔ sep ∉ m ∧ Framed sep ms rest := by
  simp [Framed, and_assoc]

/-- Every stream is frames followed by a rest without a separator. -/
theorem exists_frames (sep : α) (s : List α) : ∃ ms rest, Framed sep ms rest ∧ s = frames sep ms ++ rest := by
  induction s with
  | nil => exact ⟨[], [], Framed.nil (List.not_mem_nil), rfl⟩
  | cons a s ih =>
    obtain ⟨ms, rest, framed, rfl⟩ := ih
    by_cases here : a = sep
    · -- the separator closes an empty frame in front
      subst here
      exact ⟨[] :: ms, rest, Framed.cons_iff.mpr ⟨List.not_mem_nil, framed⟩, rfl⟩
    · -- any other symbol opens the first frame, or the rest when there is no frame
      cases ms with
      | nil =>
        exact ⟨[], a :: rest, Framed.nil (by simp [Ne.symm here, framed.2]), rfl⟩
      | cons m ms =>
        obtain ⟨free, framed⟩ := Framed.cons_iff.mp framed
        exact ⟨(a :: m) :: ms, rest,
          Framed.cons_iff.mpr ⟨by simp [Ne.symm here, free], framed⟩, by simp⟩

/-- A part without the separator, the separator and a tail determine the part and the tail. -/
theorem append_cons_inj {m m' x y : List α} (free : sep ∉ m) (free' : sep ∉ m')
    (same : m ++ sep :: x = m' ++ sep :: y) : m = m' ∧ x = y := by
  induction m generalizing m' with
  | nil =>
    cases m' with
    | nil => simpa using same
    | cons a m' =>
      -- the right side would start with the separator
      have : sep = a := (List.cons.inj same).1
      simp [this] at free'
  | cons a m ih =>
    cases m' with
    | nil =>
      have : a = sep := (List.cons.inj same).1
      simp [this] at free
    | cons a' m' =>
      obtain ⟨rfl, rest⟩ := List.cons.inj same
      obtain ⟨rfl, rfl⟩ := ih (List.not_mem_of_not_mem_cons free)
        (List.not_mem_of_not_mem_cons free') rest
      exact ⟨rfl, rfl⟩

/-- **A stream is frames and a rest in one way only.** -/
theorem frames_append_inj {ms ms' : List (List α)} {rest rest' : List α}
    (framed : Framed sep ms rest) (framed' : Framed sep ms' rest')
    (same : frames sep ms ++ rest = frames sep ms' ++ rest') : ms = ms' ∧ rest = rest' := by
  induction ms generalizing ms' with
  | nil =>
    cases ms' with
    | nil => simpa using same
    | cons m' ms' =>
      -- the rest would hold the separator after `m'`
      simp only [frames_nil, List.nil_append, frames_cons, List.append_assoc, List.cons_append]
        at same
      exact absurd (same ▸ by simp) framed.2
  | cons m ms ih =>
    obtain ⟨free, framed⟩ := Framed.cons_iff.mp framed
    cases ms' with
    | nil =>
      simp only [frames_cons, frames_nil, List.nil_append, List.append_assoc, List.cons_append]
        at same
      exact absurd (same ▸ by simp) framed'.2
    | cons m' ms' =>
      obtain ⟨free', framedTail⟩ := Framed.cons_iff.mp framed'
      simp only [frames_cons, List.append_assoc, List.cons_append] at same
      obtain ⟨rfl, tail⟩ := append_cons_inj free free' same
      obtain ⟨rfl, rfl⟩ := ih framed framedTail tail
      exact ⟨rfl, rfl⟩

/-- The first separator of `m ++ sep :: rest`, for `m` without one, stands right after `m`. -/
theorem findIdx?_append_sep [DecidableEq α] {m : List α} (free : sep ∉ m) (rest : List α) :
    (m ++ sep :: rest).findIdx? (· == sep) = some m.length := by
  have none : m.findIdx? (· == sep) = none :=
    List.findIdx?_eq_none_iff.mpr fun x member => by
      simpa using fun same : x = sep => free (same ▸ member)
  simp [none, List.findIdx?_cons]

end Frames

/-! ## Readers -/

/-- What a framed reader has handed over: frames or the error that ended the stream, and its
buffer, `none` once an error has ended the stream. -/
structure Delivery (ε α β : Type) where
  items : List (Except ε β)
  buffer : Option (List α)

namespace Delivery

/-- One frame handed over before `d`. -/
def cons (b : Except ε β) (d : Delivery ε α β) : Delivery ε α β := ⟨b :: d.items, d.buffer⟩

/-- Go on from the buffer `d` leaves, unless `d` ended the stream. -/
def andThen (d : Delivery ε α β) (k : List α → Delivery ε α β) : Delivery ε α β :=
  match d.buffer with
  | none => d
  | some buf => ⟨d.items ++ (k buf).items, (k buf).buffer⟩

@[simp] theorem andThen_ended (items : List (Except ε β)) (k : List α → Delivery ε α β) :
    (⟨items, none⟩ : Delivery ε α β).andThen k = ⟨items, none⟩ := rfl

@[simp] theorem andThen_open (items : List (Except ε β)) (buf : List α)
    (k : List α → Delivery ε α β) :
    (⟨items, some buf⟩ : Delivery ε α β).andThen k = ⟨items ++ (k buf).items, (k buf).buffer⟩ :=
  rfl

@[simp] theorem nil_andThen (buf : List α) (k : List α → Delivery ε α β) :
    (⟨[], some buf⟩ : Delivery ε α β).andThen k = k buf := rfl

@[simp] theorem cons_andThen (b : Except ε β) (d : Delivery ε α β) (k : List α → Delivery ε α β) :
    (d.cons b).andThen k = (d.andThen k).cons b := by
  rcases d with ⟨items, _ | buf⟩ <;> rfl

/-- The continuation matters only at the buffer that is left. -/
theorem andThen_congr {d : Delivery ε α β} {k k' : List α → Delivery ε α β}
    (same : ∀ buf, d.buffer = some buf → k buf = k' buf) : d.andThen k = d.andThen k' := by
  rcases d with ⟨items, _ | buf⟩
  · rfl
  · simp [same buf rfl]

end Delivery

/-- A framed reader after a read: call the decoder on the buffer until it asks for more input or
fails, at most `fuel` times. -/
def drain (dec : EStateM ε (List α) (Option β)) : Nat → List α → Delivery ε α β
  | 0, buf => ⟨[], some buf⟩
  | fuel + 1, buf =>
    match dec.run buf with
    | .ok none buf' => ⟨[], some buf'⟩
    | .ok (some b) buf' => (drain dec fuel buf').cons (.ok b)
    | .error e _ => ⟨[.error e], none⟩

/-- A framed reader fed the chunks of a stream one read after another. A decoder that takes at
least one symbol off the buffer for each frame asks for more input within `length + 1` calls. -/
def read (dec : EStateM ε (List α) (Option β)) : List (List α) → List α → Delivery ε α β
  | [], buf => ⟨[], some buf⟩
  | chunk :: chunks, buf =>
    (drain dec ((buf ++ chunk).length + 1) (buf ++ chunk)).andThen (read dec chunks)

/-- What a reader should hand over for the complete frames `ms` of a stream and the unterminated
`rest`: the frames parsed up to the first that fails, which ends the stream; else the rest stays
in the buffer. -/
def deliver (parse : List α → Except ε β) : List (List α) → List α → Delivery ε α β
  | [], rest => ⟨[], some rest⟩
  | m :: ms, rest =>
    match parse m with
    | .ok b => (deliver parse ms rest).cons (.ok b)
    | .error e => ⟨[.error e], none⟩

section Deliver

variable (parse : List α → Except ε β)

/-- The buffer `deliver` leaves is the rest, unless a frame failed. -/
theorem deliver_buffer (ms : List (List α)) (rest : List α) :
    (deliver parse ms rest).buffer = none ∨ (deliver parse ms rest).buffer = some rest := by
  induction ms with
  | nil => simp [deliver]
  | cons m ms ih =>
    simp only [deliver]
    split
    · exact ih
    · exact .inl rfl

/-- Delivering frames one after another is delivering the first ones, then the others. -/
theorem deliver_append (ms ms' : List (List α)) (rest mid : List α) :
    deliver parse (ms ++ ms') rest = (deliver parse ms mid).andThen fun _ => deliver parse ms' rest := by
  induction ms with
  | nil => simp [deliver]
  | cons m ms ih =>
    simp only [List.cons_append, deliver]
    split
    · rw [ih, Delivery.cons_andThen]
    · rfl

/-- Frames that all parse are all handed over, and the rest stays in the buffer. -/
theorem deliver_map {g : β → List α} (parses : ∀ b, parse (g b) = .ok b) (bs : List β)
    (rest : List α) : deliver parse (bs.map g) rest = ⟨bs.map .ok, some rest⟩ := by
  induction bs with
  | nil => rfl
  | cons b bs ih => simp [deliver, parses, ih, Delivery.cons]

end Deliver

/-! ## Separator decoders -/

section Decoder

variable [DecidableEq α] (sep : α) (parse : List α → Except ε β)

/-- Cut the buffer at its first separator and parse the part before it, dropping the separator;
without a separator, ask for more input. The buffer is cut before the part is parsed, so a part
that fails to parse is gone too. -/
def sepDecoder : EStateM ε (List α) (Option β) := fun buf =>
  match buf.findIdx? (· == sep) with
  | some i =>
    match parse (buf.take i) with
    | .ok b => .ok (some b) (buf.drop (i + 1))
    | .error e => .error e (buf.drop (i + 1))
  | none => .ok none buf

variable {sep}

theorem sepDecoder_none {buf : List α} (free : sep ∉ buf) :
    (sepDecoder sep parse).run buf = .ok none buf := by
  have none : buf.findIdx? (· == sep) = none :=
    List.findIdx?_eq_none_iff.mpr fun x member => by
      simpa using fun same : x = sep => free (same ▸ member)
  simp [EStateM.run, sepDecoder, none]

theorem sepDecoder_frame {m : List α} (free : sep ∉ m) (rest : List α) :
    (sepDecoder sep parse).run (m ++ sep :: rest) =
      match parse m with
      | .ok b => .ok (some b) rest
      | .error e => .error e rest := by
  simp only [EStateM.run, sepDecoder, findIdx?_append_sep free, List.take_left']
  simp

/-- **Draining frames and a rest**: with one call for each frame and one more, the reader hands
over what `deliver` says. -/
theorem drain_frames {ms : List (List α)} {rest : List α} (framed : Framed sep ms rest)
    {fuel : Nat} (enough : ms.length < fuel) :
    drain (sepDecoder sep parse) fuel (frames sep ms ++ rest) = deliver parse ms rest := by
  induction ms generalizing fuel with
  | nil =>
    obtain ⟨fuel, rfl⟩ : ∃ f, fuel = f + 1 := ⟨fuel - 1, by simp at enough; omega⟩
    simp [drain, deliver, sepDecoder_none parse framed.2]
  | cons m ms ih =>
    obtain ⟨free, framed⟩ := Framed.cons_iff.mp framed
    obtain ⟨fuel, rfl⟩ : ∃ f, fuel = f + 1 := ⟨fuel - 1, by simp at enough; omega⟩
    simp only [frames_cons, List.append_assoc, List.cons_append, drain, deliver,
      sepDecoder_frame parse free]
    cases parse m with
    | ok b => exact congrArg (Delivery.cons _) (ih framed (by simpa using enough))
    | error e => rfl

/-- **Reading a stream in chunks**: whatever the reads, the reader hands over the parsed complete
frames of all it was fed, and keeps the unterminated rest. -/
theorem read_eq_deliver (chunks : List (List α)) {buf : List α} (free : sep ∉ buf)
    {ms : List (List α)} {rest : List α} (framed : Framed sep ms rest)
    (stream : buf ++ chunks.flatten = frames sep ms ++ rest) :
    read (sepDecoder sep parse) chunks buf = deliver parse ms rest := by
  induction chunks generalizing buf ms rest with
  | nil =>
    -- nothing was read: the buffer, without a separator, is the whole rest
    obtain ⟨rfl, rfl⟩ := frames_append_inj (Framed.nil free) framed (by simpa using stream)
    rfl
  | cons chunk chunks ih =>
    -- the complete frames of this read, and those completed by later reads
    obtain ⟨now, mid, framedNow, cut⟩ := exists_frames sep (buf ++ chunk)
    obtain ⟨later, last, framedLater, cut'⟩ := exists_frames sep (mid ++ chunks.flatten)
    have whole : frames sep (now ++ later) ++ last = frames sep ms ++ rest := by
      rw [← stream, frames_append, List.append_assoc, ← cut', ← List.append_assoc, ← cut]
      simp
    have framedAll : Framed sep (now ++ later) last :=
      ⟨fun m member => (List.mem_append.mp member).elim (framedNow.1 m) (framedLater.1 m),
        framedLater.2⟩
    obtain ⟨rfl, rfl⟩ := frames_append_inj framedAll framed whole
    have enough : now.length < (buf ++ chunk).length + 1 := by
      have := length_le_length_frames sep now
      rw [cut, List.length_append]
      omega
    rw [read, cut, drain_frames parse framedNow (cut ▸ enough), deliver_append parse now later
      last mid]
    apply Delivery.andThen_congr
    intro left leftBuffer
    -- the reader goes on from the unterminated rest of this read
    have : left = mid := by
      rcases deliver_buffer parse now mid with ended | kept <;> simp_all
    subst this
    exact ih framedNow.2 framedLater cut'

/-- **How a stream is cut into reads does not matter.** -/
theorem read_eq_read_flatten (chunks : List (List α)) {buf : List α} (free : sep ∉ buf) :
    read (sepDecoder sep parse) chunks buf = read (sepDecoder sep parse) [chunks.flatten] buf := by
  obtain ⟨ms, rest, framed, stream⟩ := exists_frames sep (buf ++ chunks.flatten)
  rw [read_eq_deliver parse chunks free framed stream,
    read_eq_deliver parse [chunks.flatten] free framed (by simpa using stream)]

end Decoder

/-! ## Encodings that keep the separator apart -/

section Encoding

variable [BEq γ] [LawfulBEq γ] {sep : α} {newline : γ} {enc : γ → List α}

/-- **A text encoded and followed by the separator is the frames of its encoded lines**, when
the encoding sends the line break to the separator alone. -/
theorem frames_intercalate_flatMap (single : enc newline = [sep]) (text : List γ) :
    text.flatMap enc ++ [sep] = frames sep ((text.splitOn newline).map (·.flatMap enc)) := by
  -- a text is its lines joined by the line break
  have joined : ∀ lines : List (List γ), lines ≠ [] →
      ([newline].intercalate lines).flatMap enc ++ [sep] =
        frames sep (lines.map (·.flatMap enc)) := by
    intro lines nonempty
    induction lines with
    | nil => contradiction
    | cons line lines ih =>
      cases lines with
      | nil => simp [List.intercalate_singleton]
      | cons next lines =>
        rw [List.intercalate_cons_cons, List.flatMap_append, List.flatMap_append,
          List.append_assoc, List.append_assoc, ih (List.cons_ne_nil _ _)]
        simp [single]
  calc text.flatMap enc ++ [sep]
      = ([newline].intercalate (text.splitOn newline)).flatMap enc ++ [sep] := by
        rw [List.intercalate_splitOn]
    _ = frames sep ((text.splitOn newline).map (·.flatMap enc)) :=
        joined _ (List.splitOn_ne_nil _ _)

end Encoding

end Framing
