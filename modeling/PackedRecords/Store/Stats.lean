/-! # Store statistics

Counters of what a store has done since it was opened. The counters are exact numbers;
kept in 64 bits they would start over at zero after `2 ^ 64 - 1`.
-/

namespace PackedRecords

/-- The counters of one opened store. -/
structure Stats where
  lookups : Nat := 0
  reads : Nat := 0
  appends : Nat := 0
  inPlaceUpdates : Nat := 0
  shiftedUpdates : Nat := 0
  removes : Nat := 0
  bytesRead : Nat := 0
  bytesWritten : Nat := 0
  bytesShifted : Nat := 0
deriving DecidableEq, Repr, Inhabited

namespace Stats

def countLookup (stats : Stats) : Stats :=
  { stats with lookups := stats.lookups + 1 }

/-- A payload of `length` bytes was returned. -/
def countRead (length : Nat) (stats : Stats) : Stats :=
  { stats with reads := stats.reads + 1, bytesRead := stats.bytesRead + length }

def countAppend (written : Nat) (stats : Stats) : Stats :=
  { stats with
    appends := stats.appends + 1, bytesWritten := stats.bytesWritten + written }

def countInPlaceUpdate (written : Nat) (stats : Stats) : Stats :=
  { stats with
    inPlaceUpdates := stats.inPlaceUpdates + 1
    bytesWritten := stats.bytesWritten + written }

def countShiftedUpdate (written : Nat) (stats : Stats) : Stats :=
  { stats with
    shiftedUpdates := stats.shiftedUpdates + 1
    bytesWritten := stats.bytesWritten + written }

def countShift (moved : Nat) (stats : Stats) : Stats :=
  { stats with bytesShifted := stats.bytesShifted + moved }

def countRemove (stats : Stats) : Stats :=
  { stats with removes := stats.removes + 1 }

/-- The number of payloads written, in whichever way. -/
def writes (stats : Stats) : Nat :=
  stats.appends + stats.inPlaceUpdates + stats.shiftedUpdates

end Stats

end PackedRecords
