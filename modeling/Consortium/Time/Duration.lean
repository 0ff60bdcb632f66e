/-!
Lengths of time for a reader: the two largest units that matter, or seconds alone.
-/

namespace Consortium.Duration

def secondsPerMinute : Nat := 60

def secondsPerHour : Nat := 3600

def secondsPerDay : Nat := 86400

def toText (seconds : Nat) : String :=
  if seconds < secondsPerMinute then
    toString seconds ++ "s"
  else if seconds < secondsPerHour then
    toString (seconds / secondsPerMinute) ++ "m " ++ toString (seconds % secondsPerMinute) ++ "s"
  else if seconds < secondsPerDay then
    toString (seconds / secondsPerHour) ++ "h " ++
      toString (seconds % secondsPerHour / secondsPerMinute) ++ "m"
  else
    toString (seconds / secondsPerDay) ++ "d " ++
      toString (seconds % secondsPerDay / secondsPerHour) ++ "h"

end Consortium.Duration
