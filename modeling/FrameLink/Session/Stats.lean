namespace FrameLink

structure Stats where
  framesSent : Nat := 0
  framesReceived : Nat := 0
  checksumFailures : Nat := 0
  malformedFrames : Nat := 0
  resyncBytes : Nat := 0
  duplicateResponses : Nat := 0
  requestTimeouts : Nat := 0
  eventsDelivered : Nat := 0
  eventsDropped : Nat := 0
deriving DecidableEq, Repr, Inhabited

namespace Stats

def framingErrors (s : Stats) : Nat := s.checksumFailures + s.malformedFrames

def toList (s : Stats) : List Nat :=
  [s.framesSent, s.framesReceived, s.checksumFailures, s.malformedFrames, s.resyncBytes,
    s.duplicateResponses, s.requestTimeouts, s.eventsDelivered, s.eventsDropped]

def names : List String :=
  ["sent", "received", "checksum_failures", "malformed", "resync_bytes", "duplicates", "timeouts",
    "events", "events_dropped"]

def text (s : Stats) : String :=
  " ".intercalate (List.zipWith (fun name n => name ++ "=" ++ toString n) names s.toList)

end Stats
end FrameLink
