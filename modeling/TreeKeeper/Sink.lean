/-
  Where output goes: a device that takes bytes up to a limit,
  if there is one, and fails every write beyond it.  Lines
  may be gathered in front of the device.  What stands behind
  the last line break then stays there until the sink is
  flushed, and it is only then that its write can fail.

  Key definitions include:
    * `Sink`
    * `Sink.pass`
    * `Sink.flush`
    * `Sink.write`
    * `Sink.text`
-/

------------------------------------------------------------
-- Sinks
------------------------------------------------------------

namespace TreeKeeper

/-
  The bytes on a device and how many it holds at most, and
  the bytes that are gathered in front of it and how many
  there may be, if any are gathered.
-/
structure Sink where
  bytes : ByteArray := ByteArray.empty
  limit : Option Nat := none
  pending : ByteArray := ByteArray.empty
  capacity : Option Nat := none

namespace Sink

/- The report of a write that does not fit. -/
def faultText : String :=
  "failed to write output: sink full"

------------------------------------------------------------
-- The Device
------------------------------------------------------------

/-
  Pass bytes on to the device.  As much as fits arrives, and
  the result tells whether that is all of it.
-/
def pass (sink : Sink) (data : ByteArray) : Bool × Sink :=
  match sink.limit with
  | none => (true, { sink with bytes := sink.bytes ++ data })
  | some limit =>
      let room := limit - sink.bytes.size
      if data.size ≤ room then
        (true, { sink with bytes := sink.bytes ++ data })
      else
        (false,
          { sink with
            bytes := sink.bytes ++ data.extract 0 room })

/-
  Pass on what is gathered.  What does not fit is gathered
  still.
-/
def flush (sink : Sink) : Bool × Sink :=
  let (isComplete, passed) := sink.pass sink.pending
  let count := passed.bytes.size - sink.bytes.size
  (isComplete,
    { passed with
      pending :=
        sink.pending.extract count sink.pending.size })

------------------------------------------------------------
-- Gathering Lines
------------------------------------------------------------

/-
  Gather bytes.  What is gathered is passed on if they do not
  fit behind it, and so are they if there are too many.
-/
def gather
    (sink : Sink)
    (capacity : Nat)
    (data : ByteArray) : Bool × Sink :=
  let (isComplete, sink) :=
    if capacity < sink.pending.size + data.size then
      sink.flush
    else (true, sink)
  if !isComplete then (false, sink)
  else if capacity ≤ data.size then sink.pass data
  else (true, { sink with pending := sink.pending ++ data })

/- How many bytes there are up to the last line break. -/
def linesSize (data : ByteArray) : Nat :=
  (data.data.toList.reverse.dropWhile (· ≠ 10)).length

/- Pass on whole lines behind what is gathered. -/
def passLines
    (sink : Sink)
    (capacity : Nat)
    (lines : ByteArray) : Bool × Sink :=
  if sink.pending.size = 0 then sink.pass lines
  else
    match sink.gather capacity lines with
    | (true, sink) => sink.flush
    | (false, sink) => (false, sink)

/-
  Gather a text behind its last line break, and pass on what
  is in front of it.  Without a line break only a line that
  is left from before is passed on.
-/
def writeLines
    (sink : Sink)
    (capacity : Nat)
    (data : ByteArray) : Bool × Sink :=
  let size := linesSize data
  let isLineLeft :=
    0 < sink.pending.size &&
      linesSize sink.pending == sink.pending.size
  let (isComplete, sink) :=
    if 0 < size then
      sink.passLines capacity (data.extract 0 size)
    else if isLineLeft then sink.flush
    else (true, sink)
  if isComplete then
    sink.gather capacity (data.extract size data.size)
  else (false, sink)

/- Add a text.  The result tells whether that has worked. -/
def write (sink : Sink) (text : String) : Bool × Sink :=
  match sink.capacity with
  | none => sink.pass text.toUTF8
  | some capacity => sink.writeLines capacity text.toUTF8

------------------------------------------------------------
-- What Has Arrived
------------------------------------------------------------

/- The text of all bytes but some at the end, if it is one. -/
def textWithout? (sink : Sink) (count : Nat) : Option String :=
  String.fromUTF8?
    (sink.bytes.extract 0 (sink.bytes.size - count))

/-
  The bytes on the device as a text.  A sign of replacement
  stands for a character that the limit has cut.
-/
def text (sink : Sink) : String :=
  match sink.textWithout? 0 with
  | some text => text
  | none =>
      (([1, 2, 3].findSome? sink.textWithout?).getD "") ++
        "\ufffd"

end Sink

end TreeKeeper
