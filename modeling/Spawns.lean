import Spawns.Core.JointDelivery
import Spawns.Core.JointRepoll
import Spawns.Core.JointWakeup
import Spawns.Core.JointReference
import Spawns.Core.TaskOutcome
import Spawns.Core.WakerBoxes
import Spawns.Core.TaskCancel
import Spawns.Core.TaskJoin
import Spawns.Core.SpawnScope
import Spawns.Core.SpawnCall
import Spawns.Core.FindGlobal
import Spawns.Core.CancelLoops
import Spawns.Core.FindSpawn
import Spawns.Core.ScopeRejection
import Spawns.Core.TaskDestruction
import Spawns.Core.TaskId
import Spawns.Core.HandleCalls
import Spawns.Core.TaskHandles
import Spawns.Executor.Blocking
import Spawns.Core.HandleProgress
import Spawns.Core.HandleOutcome
import Spawns.Core.CancelReference
import Spawns.Core.JoinError
import Spawns.Core.TaskJoinStep
import Spawns.Core.WokenSince
import Spawns.Executor.BlockOn
import Spawns.Executor.BlockOnOutcome
import Spawns.Executor.BlockingTasks
import Spawns.Core.IdText
import Spawns.Core.JointPoison
import Spawns.Core.WakerPanics
import Spawns.Core.CallsReturn
import Spawns.Core.StaleLoads
import Spawns.Core.SpawnTask
import Spawns.Core.Routing
import Spawns.Core.SpawnJoin
import Spawns.Compat.Runtimes
