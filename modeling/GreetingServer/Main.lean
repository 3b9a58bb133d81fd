import GreetingServer.Log.Standard.Library
import GreetingServer.Program
import Std.Time.DateTime.Timestamp

/-! The command line. One connection is taken from standard input, as a supervisor that listens for
the program hands it over: what the peer sends is read there, what is sent to it goes to standard
output, and the log goes to standard error. -/
namespace GreetingServer
namespace CommandLine

/-- All bytes up to the end of a stream. -/
partial def readAll (stream : IO.FS.Stream) (seen : ByteArray) : IO ByteArray := do
  let piece ← stream.read 65536
  if piece.isEmpty then return seen else readAll stream (seen ++ piece)

/-- The address of the peer, if the program is told one: a host and a port, or a single text. -/
def peer : List String → Peer
  | host :: port :: _ => Peer.ofTexts host.toList port.toList
  | [address] => Peer.ofText address.toList
  | [] => Peer.ofText "unknown".toList

/-- The loggers of the program. Nothing is known of the places where faults were raised. -/
def loggers : Log.Library := Log.Standard.library (Fault.report fun _ => [])

def endpoint : Endpoint := ⟨"0.0.0.0".toList, 5000⟩

def currentInstant : IO Instant := do
  let time ← Std.Time.Timestamp.now
  return ⟨time.toNanosecondsSinceUnixEpoch.val / 1000⟩

/-- A run for one connection, which the peer takes as a whole. -/
def serveOne (arguments : List String) (input : Bytes) (now : Instant) : Program.Run :=
  Program.run loggers (Program.mainModule false) now (.ok endpoint)
    [.connection (peer arguments) ⟨input, none⟩ Sink.unlimited] Fault.interrupted

end CommandLine
end GreetingServer

open GreetingServer in
def main (arguments : List String) : IO Unit := do
  let input ← CommandLine.readAll (← IO.getStdin) ByteArray.empty
  let run := CommandLine.serveOne arguments input.toList (← CommandLine.currentInstant)
  let errors ← IO.getStderr
  for line in run.lines do
    errors.putStrLn (String.ofList line)
  for duration in run.pauses do
    IO.sleep duration.toUInt32
  let output ← IO.getStdout
  for bytes in run.sent do
    output.write (ByteArray.mk bytes.toArray)
  output.flush
