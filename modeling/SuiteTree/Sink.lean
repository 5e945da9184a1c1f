import SuiteTree.Error

/-!
# Consoles that may fill up

A sink keeps what is written to it, byte by byte. It may have room for a limited number of bytes
only: a text that does not fit is written as far as there is room, and writing it fails.
-/

namespace SuiteTree

/-- A console, with what has been written to it. -/
structure Sink where
  written : List UInt8 := []
  /-- How many bytes it still takes; no number if it takes any. -/
  room : Option Nat := none
  deriving Repr, DecidableEq, Inhabited

namespace Sink

/-- The bytes of a text. -/
def bytes (text : String) : List UInt8 :=
  text.toUTF8.toList

/-- Why writing to a full console fails. -/
def full : OsError :=
  .other "console full"

/-- Write a text as far as there is room. -/
def put (sink : Sink) (text : String) : Except OsError Unit × Sink :=
  let bs := bytes text
  match sink.room with
  | none => (.ok (), { sink with written := sink.written ++ bs })
  | some room =>
    if bs.length ≤ room then
      (.ok (), { written := sink.written ++ bs, room := some (room - bs.length) })
    else (.error full, { written := sink.written ++ bs.take room, room := some 0 })

end Sink

end SuiteTree
