import CellModem.Decoding

/-!
# Logical channels

Channels to the applications on the SIM.
-/

namespace CellModem

structure ChannelResponse where
  length : Int
  response : String
  deriving DecidableEq, Repr

namespace ChannelResponse

def maxLength : Nat := 999

/-- `+CGLA: <length>,"<response>"` -/
def ofResponse (r : Response) : Except DecodeError ChannelResponse :=
  r.decodeSingle "+CGLA:" do
    let length ← .integer
    let response ← .quotedString
    let actual := response.toList.length
    if maxLength < actual then throw (.outOfRange actual maxLength)
    return { length, response }

end ChannelResponse

def maxApplicationName : Nat := 32

def decodeSession (r : Response) : Except DecodeError Int :=
  r.decodeSingle "+CCHO:" .integer

end CellModem
