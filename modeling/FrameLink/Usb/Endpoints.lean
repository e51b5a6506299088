namespace FrameLink

inductive InTransfer where
  | bulk
  | interrupt
  | announced
deriving DecidableEq, Repr, Inhabited

namespace InTransfer

def all : List InTransfer := [bulk, interrupt, announced]

def name : InTransfer → String
  | bulk => "bulk"
  | interrupt => "interrupt"
  | announced => "announced"

end InTransfer

structure Endpoints where
  interface : UInt8 := 0
  output : UInt8 := 0x03
  input : UInt8 := 0x82
  transfer : InTransfer := .bulk
  announce : UInt8 := 0x81
  /-- How many reads of an announced message may come back empty before it is given up. -/
  retries : UInt8 := 5
deriving DecidableEq, Repr, Inhabited

end FrameLink
