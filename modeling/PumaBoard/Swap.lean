/-!
Buffer swaps: how many are pending, whether one is requested, and how many were completed. The
counts wrap at the end of their types; whether a sum fits is said beside it, for the program that
checks its sums.
-/

namespace PumaBoard

/-- The bookkeeping of buffer swaps. -/
structure Swap where
  pending : UInt8 := 0
  requested : Bool := false
  completed : UInt64 := 0
deriving DecidableEq, Repr, Inhabited

namespace Swap

/-- The largest number of pending swaps. -/
def maxPending : UInt8 := 7

/-- Requests a swap, which uses up one pending swap. -/
def request (s : Swap) : Swap :=
  { s with requested := true, pending := if s.pending = 0 then 0 else s.pending - 1 }

/-- Appends one pending swap, up to the largest number. With as many pending as their type holds,
which only a snapshot can bring, the sum does not fit: a program that checks its sums stops there,
and this is the sum of one that does not, which wraps. -/
def append (s : Swap) : Swap :=
  { s with pending := if s.pending + 1 < maxPending then s.pending + 1 else maxPending }

/-- The type of the pending swaps holds one more. -/
def canAppend (s : Swap) : Bool := s.pending.toNat + 1 < UInt8.size

/-- Carries out a requested swap. With as many completed as their type holds the sum wraps, if the
program does not check it. -/
def complete (s : Swap) : Swap := { s with requested := false, completed := s.completed + 1 }

/-- The type of the completed swaps holds one more. -/
def canComplete (s : Swap) : Bool := s.completed.toNat + 1 < UInt64.size

/-- Retires one pending swap. -/
def retire (s : Swap) : Swap := { s with pending := s.pending - 1 }

end Swap

end PumaBoard
