import ClusterTutor.Definition.Basic

/-!
# Container tools

The two container runtimes of the cluster, with access to GPUs.
-/

namespace ClusterTutor.Content

/-- The definition of `docker`. -/
def docker : Definition where
  command := "docker"
  category := "containers"
  description := "Build and run containers."
  synopsis := "docker [OPTIONS] <subcommand> [ARGS]"
  options := [
    { short := some "H"
      long := some "host"
      arguments := some "HOST"
      description := "Daemon socket to connect to." },
    { long := some "gpus"
      arguments := some "GPUS"
      description := "GPUs to expose to the container (all, device=0,1)." },
    { long := some "rm", description := "Remove the container when it exits." },
    { short := some "it", description := "Interactive terminal." },
    { long := some "ipc"
      arguments := some "MODE"
      description := "IPC namespace; host is typical for NCCL." },
    { short := some "a", long := some "all", description := "Include stopped containers." }]
  subcommands := [
    { name := "run", description := "Create and start a container." },
    { name := "ps", description := "List containers." },
    { name := "images", description := "List images." },
    { name := "pull", description := "Download an image." },
    { name := "logs", description := "Show container logs." },
    { name := "exec", description := "Run a command in a running container." }]
  usage := [
    { command := "docker run --rm --gpus all nvcr.io/nvidia/cuda:12.4.0-base-ubuntu22.04 nvidia-smi"
      description := "Check GPU passthrough." },
    { command := "docker ps -a", description := "All containers." }]
  errors := [
    { message := "could not select device driver \"\" with capabilities: [[gpu]]"
      meaning := "The NVIDIA container toolkit is not configured."
      resolution := some "Install nvidia-container-toolkit and restart docker." }]
  interactions := some {
    reads := [{ domain := "containers", fields := ["gpus"], flags := some ["a", "all"] }]
    writes := [{ domain := "containers", fields := ["gpus"], flags := some ["gpus"] }] }

/-- The definition of `enroot`. -/
def enroot : Definition where
  command := "enroot"
  category := "containers"
  description := "Unprivileged container runtime used with Slurm pyxis."
  synopsis := "enroot <subcommand> [OPTIONS] [ARGS]"
  options := [
    { short := some "o"
      long := some "output"
      arguments := some "FILE"
      description := "Output squashfs file for import." },
    { short := some "n"
      long := some "name"
      arguments := some "NAME"
      description := "Container name for create." },
    { short := some "w", long := some "rw", description := "Writable root filesystem." },
    { short := some "e"
      long := some "env"
      arguments := some "VAR"
      description := "Set an environment variable." }]
  subcommands := [
    { name := "import", description := "Import an image from a registry into a squashfs file." },
    { name := "create", description := "Unpack a squashfs image into a container root." },
    { name := "start", description := "Start a container." },
    { name := "list", description := "List containers." },
    { name := "remove", description := "Delete a container." }]
  usage := [
    { command := "enroot import docker://nvcr.io#nvidia/pytorch:24.01-py3"
      description := "Pull an NGC image." },
    { command := "enroot list", description := "Containers you have created." }]
  interactions := some {
    writes := [{ domain := "containers", fields := ["enroot_name"], flags := some ["n", "name"] }] }

end ClusterTutor.Content
