import Uvw.Loop
import Uvw.Foundation.SharedOwnership
import Uvw.Resource
import Uvw.Runtime.RequestOwnership
import Uvw.Runtime.HandleLifecycle
import Uvw.Runtime.StreamCompletion
import Uvw.Runtime.LoopLifetime
import Uvw.Fs.Uv
import Uvw.Fs.Request
import Uvw.Fs.Lifetime
import Uvw.Fs.Answers
import Uvw.Fs.Payloads
import Uvw.Address
import Uvw.Foundation.Iteration
import Uvw.Fs.Scandir
import Uvw.Fs.Readdir
import Uvw.Foundation.Ledger
import Uvw.Fs.DirectoryStream
import Uvw.Dns
import Uvw.Process
import Uvw.DefaultLoop
import Uvw.Walk
import Uvw.Runtime.Drain
import Uvw.Udp.Conservation
import Uvw.Foundation.History
import Uvw.Fs.AbsentPayload
import Uvw.Fs.Descriptor
import Uvw.Thread
import Uvw.StreamRead
import Uvw.Strings
import Uvw.Emitter
import Uvw.Queries
import Uvw.Stdio
import Uvw.Barrier
import Uvw.Once
import Uvw.Foundation.SharedOnDemand
import Uvw.Tty
import Uvw.Validity
import Uvw.Foundation.Destruction
import Uvw.Runtime.Reclamation
import Uvw.Runtime.WorkPool
import Uvw.Fs.Buffers
import Uvw.Foundation.Progress
import Uvw.Runtime.Isolation
import Uvw.Runtime.WindDown
import Uvw.Runtime.LoopRefinement
import Uvw.Environment
import Uvw.ThreadLocal
import Uvw.Runtime.Captures
import Uvw.Runtime.CallStack
