import ClusterTutor.Content.Containers
import ClusterTutor.Content.Diagnostics
import ClusterTutor.Content.Fabric
import ClusterTutor.Content.GpuTools
import ClusterTutor.Content.Hardware
import ClusterTutor.Content.Scheduler

/-!
# The commands of the tutor

All tools that come with the tutor, in the order in which they are loaded.
-/

namespace ClusterTutor.Content

/-- The definitions that come with the tutor. -/
def commands : List Definition :=
  [dcgmi, dmidecode, docker, enroot, iblinkinfo, ibstat, ipmitool, nvidiaBugReport, nvidiaSmi,
    nvtop, perfquery, scontrol, sensors, sinfo, squeue]

end ClusterTutor.Content
