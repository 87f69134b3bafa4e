/-
Steps on connections that another program can notice, on the side that sends and on the side that listens.
-/
namespace ChangeLint

/-- a step on a connection, or on the socket that listens for connections -/
inductive Signal
  | bind (host : String) (port : Int)
  | write (payload : List UInt8)
  | drain
  | endOfFile
  | close
  | closed
  | serverClosed
deriving DecidableEq, Repr

namespace Signal

/-- what a step puts on the wire -/
def payload : Signal → List UInt8
  | .write bytes => bytes
  | _ => []

/-- all that some steps put on the wire -/
def sent (ss : List Signal) : List UInt8 := ss.flatMap payload

end Signal

end ChangeLint
