import ListingReview.Desk

/-! # Tallies

How many decisions of each status there were. A tally has a counter for every status from the start;
a series, which is what monitoring is shown, has one only from the first decision on. -/

namespace ListingReview

/-- A counter for each status. -/
structure Tally where
  approved : UInt64 := 0
  flagged : UInt64 := 0
  rejected : UInt64 := 0
deriving DecidableEq, Repr

namespace Tally

def get (tally : Tally) : Status → UInt64
  | .approved => tally.approved
  | .flagged => tally.flagged
  | .rejected => tally.rejected

/-- The tally after one more decision of a status. -/
def add (tally : Tally) : Status → Tally
  | .approved => { tally with approved := tally.approved + 1 }
  | .flagged => { tally with flagged := tally.flagged + 1 }
  | .rejected => { tally with rejected := tally.rejected + 1 }

def total (tally : Tally) : UInt64 := tally.approved + tally.flagged + tally.rejected

/-- A tally as it is shown. -/
def document (tally : Tally) : Json.Document :=
  .object
    [("approved", Json.Format.unsigned.write tally.approved),
     ("flagged", Json.Format.unsigned.write tally.flagged),
     ("rejected", Json.Format.unsigned.write tally.rejected),
     ("total", Json.Format.unsigned.write tally.total)]

end Tally

/-- The counters of the statuses that have been decided, by the order of their first decisions. -/
abbrev Series := List (Status × UInt64)

namespace Series

/-- The series after one more decision of a status. -/
def add (status : Status) : Series → Series
  | [] => [(status, 1)]
  | (other, n) :: rest =>
    if other = status then (other, n + 1) :: rest else (other, n) :: add status rest

def metric : String := "moderation_decisions_total"

/-- The line of one counter. -/
def sample (entry : Status × UInt64) : String :=
  metric ++ "\x7bstatus=\"" ++ entry.1.name ++ "\"\x7d "
    ++ String.ofList (Text.decimal entry.2.toNat)

/-- The lines of a series; without counters there are none. -/
def lines (series : Series) : List String :=
  if series.isEmpty then []
  else ("# TYPE " ++ metric ++ " counter") :: series.map sample

/-- A series as text, each line with its end and an empty line behind them. These are the type and
the samples of the one metric of the decisions. Left out are its line of help, for which a
description is registered when the service is launched, and the series that the layer around the
routes keeps of the requests and their times. -/
def text (series : Series) : String :=
  if series.isEmpty then ""
  else String.join (series.lines.map fun line => line ++ "\n") ++ "\n"

end Series

/-- A tally and the series beside it. -/
structure Count where
  tally : Tally := {}
  series : Series := []
deriving DecidableEq, Repr

/-- Counts decisions by their status. -/
def Recorder.counting : Recorder Count where
  record count decision :=
    { tally := count.tally.add decision.status, series := Series.add decision.status count.series }

end ListingReview
