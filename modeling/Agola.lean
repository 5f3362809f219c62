import Agola.Driver.Labels
import Agola.Driver.Package
import Agola.Driver.Runtime
import Agola.Driver.Pod
import Agola.Driver.GetPods
import Agola.Driver.NewPod
import Agola.Driver.NewPodRun
import Agola.Driver.NewPodSpec
import Agola.Driver.PodInvariant
import Agola.Driver.NewPodFailure
import Agola.Driver.Exec
import Agola.Driver.Rehydrate
import Agola.Driver.ExecSession
import Agola.Driver.Teardown
import Agola.Driver.NewPodCalls
import Agola.Driver.Lifecycle
import Agola.Driver.Reclaim
import Agola.Driver.PodTable
import Agola.Driver.Footprint
import Agola.Driver.Progress
import Agola.Driver.Outcomes
import Agola.Configstore.Store
import Agola.Configstore.User
import Agola.Configstore.UserSpec
import Agola.Configstore.Invariants
import Agola.Configstore.Listing
import Agola.Configstore.Frame
import Agola.Configstore.Reads
