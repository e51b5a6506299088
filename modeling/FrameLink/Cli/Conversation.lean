import FrameLink.Cli.Error
import FrameLink.Session.Request
import FrameLink.Text.HexDump

namespace FrameLink.Cli

variable {σ : Type}

inductive Ending where
  | finished
  | failed (e : CliError)
  | streaming
deriving DecidableEq, Repr

structure Conversation (σ : Type) where
  printed : List String
  ending : Ending
  session : Session σ

def drainEvents (s : Session σ) (id : StreamId) : Nat → List Frame × Bool × Session σ
  | 0 => ([], false, s)
  | most + 1 =>
    match s.nextEvent id with
    | (.event f, s) =>
      let (events, ended, s) := drainEvents s id most
      (f :: events, ended, s)
    | (.empty, s) => ([], false, s)
    | (.ended, s) => ([], true, s)

def allEvents (s : Session σ) (id : StreamId) : List Frame × Bool × Session σ :=
  drainEvents s id ((s.streams[id]?.map fun stream => stream.unread.length).getD 0 + 1)

/-- Reads a stream to its end, or until nothing more happens. In a lasting silence a started frame
may still be given up, which can end the stream. -/
def followEvents (T : Transport σ) (s : Session σ) (id : StreamId) :
    List Frame × Bool × Session σ :=
  match allEvents s id, s.pace with
  | (events, false, s), .lasting =>
    let (more, ended, s) := allEvents (s.idle T s.settings.partialTimeout) id
    (events ++ more, ended, s)
  | result, _ => result

def connectedLine (s : Selector) (v : Version) : String :=
  "Connected to " ++ s.text ++ " (protocol " ++ v.text ++ ")"

def responseLine (payload : Bytes) : String := "Response: " ++ Text.hexSpaced payload

def eventLine (f : Frame) : String := "Event: " ++ f.text

/-- Runs a conversation. The stream of events starts before the request, so that it misses none. -/
def converse (T : Transport σ) (s : Session σ) (payload : Bytes) (streaming : Bool) :
    Conversation σ :=
  match s.connect T with
  | (.error e, s) => ⟨[], .failed (.connect s.selector e), s⟩
  | (.ok version, s) =>
    let connected := connectedLine s.selector version
    let (id, s) := s.subscribe
    match s.requestDefault T payload with
    | (.error e, s) => ⟨[connected], .failed (.request e), s⟩
    | (.ok response, s) =>
      let lines := [connected, responseLine response]
      if streaming then
        let (events, ended, s) := followEvents T s id
        ⟨lines ++ events.map eventLine, if ended then .finished else .streaming, s⟩
      else ⟨lines, .finished, s⟩

end FrameLink.Cli
