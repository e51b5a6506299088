import FrameLink.Text.Numeral
import FrameLink.Text.Pattern

namespace FrameLink

inductive LogFilterError where
  | directive
  | level
  | field (e : Text.PatternError)
deriving DecidableEq, Repr

def LogFilterError.message : LogFilterError → String
  | directive => "invalid filter directive"
  | level => "error parsing level filter: expected one of \"off\", \"error\", \"warn\", \"info\", " ++
      "\"debug\", \"trace\", or a number 0-5"
  | field e => "invalid field filter: " ++ e.message

inductive ConfigError where
  | noFile
  | logLevel (level : String)
  | selector (text : String)
  | pathForm (text : String)
  | pathNumber (text : String)
  | noRetries
  | zero (setting : String)
  | sequenceSpace (size : Nat)
  | bodyTooShort (minimum : Nat)
  /-- The length field cannot say so much. -/
  | bodyTooLong (length width : Nat)
  | logFilter (e : LogFilterError)
  | loggingAlready
  | parse
  | unwritable
  | io
deriving DecidableEq, Repr

namespace ConfigError

def logLevels : List String := ["trace", "debug", "info", "warn", "error"]

def complaint : ConfigError → String
  | noFile => "No configuration file found"
  | logLevel level =>
    "Invalid log level '" ++ level ++ "', must be one of: " ++ ", ".intercalate logLevels
  | pathForm text => "Invalid bus path '" ++ text ++ "', expected BUS:ADDR"
  | pathNumber text => "Invalid bus path '" ++ text ++ "'"
  | noRetries => "extended_retries must be greater than 0 for announced transfers"
  | zero setting => setting ++ " must be greater than 0"
  | sequenceSpace size => "sequence_space " ++ toString size ++ " out of range 2..=65536"
  | bodyTooShort minimum => "max_frame_length must be at least " ++ toString minimum
  | bodyTooLong length width =>
    "max_frame_length " ++ toString length ++ " does not fit a " ++ toString width ++
      "-byte length prefix"
  | logFilter e => "Invalid log filter: " ++ e.message
  | loggingAlready =>
    "Logging already initialised: a global default trace dispatcher has already been set"
  | _ => ""

def message : ConfigError → String
  | selector text =>
    "Invalid device selector '" ++ text ++ "': expected VID:PID (e.g. '0x0ffc:0x0002')"
  | parse => "Config parse error"
  | unwritable => "Config serialize error"
  | io => "IO error"
  | e => "Configuration error: " ++ e.complaint

end ConfigError
end FrameLink
