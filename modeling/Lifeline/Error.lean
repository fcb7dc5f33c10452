/-! Why a connection or a message failed, and the words for it. -/
namespace Lifeline

inductive ClientError
  | connectionFailed (reason : String)
  | notOpen
  | attemptsExhausted
  | channelClosed
  | sendFailed (reason : String)
  | unserializable (reason : String)
deriving DecidableEq, Repr

namespace ClientError

def message : ClientError → String
  | connectionFailed reason => "Connection failed: " ++ reason
  | notOpen => "WebSocket is not open, message dropped"
  | attemptsExhausted => "Maximum reconnection attempts exceeded"
  | channelClosed => "Channel closed"
  | sendFailed reason => "Send failed: " ++ reason
  | unserializable reason => "Serialization failed: " ++ reason

end ClientError

end Lifeline
