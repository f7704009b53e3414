import RaftATui.Proof.Driver.Mirror
import RaftATui.Proof.Server.Process

namespace RaftATui
open Machinery

namespace Server

namespace Process

variable {X : Externals} {nodeId : Nat} {process after : Process X}

end Process

end Server

end RaftATui
