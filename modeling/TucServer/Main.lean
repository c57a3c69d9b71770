import TucServer.CommandLine
import TucServer.Server.Frame
import TucServer.Server.Session

/-!
# The program

Reads the arguments and then, if they ask for it, frames from standard input until it ends or the
session is over. All decisions are made by `CommandLine.launch` and `Session.receiveText`.
-/

namespace TucServer

namespace Program

/-- The header lines up to the empty one, none at the end of the input. -/
partial def readHeader (input : IO.FS.Stream) (lines : List String) :
    IO (Option (List String)) := do
  let line ← input.getLine
  if line.isEmpty then return none
  else if line.all Char.isWhitespace then return some lines
  else readHeader input (line :: lines)

/-- A number of bytes after those that have been read, none if the input ends before. -/
partial def readBytes (input : IO.FS.Stream) (count : Nat) (done : ByteArray) :
    IO (Option ByteArray) := do
  if count ≤ done.size then return some done
  let bytes ← input.read (count - done.size).toUSize
  if bytes.isEmpty then return none
  else readBytes input count (done ++ bytes)

/-- Writes a message as a frame. -/
def send (output : IO.FS.Stream) (body : String) : IO Unit := do
  output.putStr (Frame.header body)
  output.putStr body
  output.flush

/-- Answers frames until the input ends or the session is over. -/
partial def serve (input output : IO.FS.Stream) (session : Session) : IO Unit := do
  let some header ← readHeader input [] | return
  match Frame.length? header with
  | none => serve input output session
  | some length =>
    let some bytes ← readBytes input length ByteArray.empty | return
    let text := (String.fromUTF8? bytes).getD ""
    let (messages, next) := session.receiveText text
    (messages.getD []).forM (send output)
    if next.phase = .exited then return
    serve input output next

end Program

end TucServer

open TucServer in
/-- The program on the arguments of the command line. -/
def main (arguments : List String) : IO UInt32 := do
  match CommandLine.launch arguments with
  | .serve debug =>
    Program.serve (← IO.getStdin) (← IO.getStdout) (Session.new debug)
    return 0
  | .exit code output errors =>
    (← IO.getStdout).putStr output
    (← IO.getStderr).putStr errors
    return code.toUInt32
