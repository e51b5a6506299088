import FrameLink.Cli.Error
import FrameLink.Usb.Discovery

namespace FrameLink.Cli

def summaryLines (s : Usb.Summary) : List String :=
  ["  " ++ Text.hex 4 s.vendor.toNat ++ ":" ++ Text.hex 4 s.product.toNat ++ " - " ++
      s.manufacturerName.getD "Unknown Manufacturer" ++ " " ++
      s.productName.getD "Unknown Product",
    "      Bus/Device " ++ s.path.text] ++
  (s.serial.map ("      Serial: " ++ ·)).toList ++ [""]

def listingLines (devices : List Usb.Summary) : List String :=
  if devices.isEmpty then ["No USB devices found."]
  else
    ("Found " ++ toString devices.length ++ " USB device(s):\n") :: devices.flatMap summaryLines

def list (c : Usb.Connector) : Usb.BusM (List String × Option CliError) := do
  match ← c.list with
  | .error e => return ([], some (.enumerate e))
  | .ok devices => return (listingLines devices, none)

end FrameLink.Cli
