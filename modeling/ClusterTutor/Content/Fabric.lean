import ClusterTutor.Definition.Basic

/-!
# Fabric tools

The state of InfiniBand ports, the links of the fabric and the counters of its ports.
-/

namespace ClusterTutor.Content

/-- The definition of `iblinkinfo`. -/
def iblinkinfo : Definition where
  command := "iblinkinfo"
  category := "networking"
  description := "Report link info for every link in the fabric."
  synopsis := "iblinkinfo [OPTIONS]"
  options := [
    { short := some "S"
      long := some "GUID"
      arguments := some "GUID"
      description := "Only show links for the switch with this GUID." },
    { short := some "l", long := some "line", description := "One line per link." },
    { short := some "d", long := some "downports", description := "Only show ports that are down." },
    { long := some "switches-only", description := "Only show switches." }]
  usage := [
    { command := "iblinkinfo", description := "Whole fabric link map." },
    { command := "iblinkinfo -d", description := "Find down links." }]
  interactions := some {
    reads := [{ domain := "fabric_state", fields := ["port_state", "rate"] }] }

/-- The definition of `ibstat`. -/
def ibstat : Definition where
  command := "ibstat"
  category := "networking"
  description := "Show status of local InfiniBand channel adapters and ports."
  synopsis := "ibstat [OPTIONS] [CA_NAME] [PORT]"
  options := [
    { short := some "l", long := some "list_of_cas", description := "List CA names only." },
    { short := some "s", long := some "short", description := "Short output." },
    { short := some "p", long := some "port_list", description := "Show port GUIDs." },
    { short := some "V", long := some "version", description := "Print version and exit." }]
  exitCodes := [{ code := 0, meaning := "Success" }, { code := 255, meaning := "No InfiniBand devices found" }]
  usage := [
    { command := "ibstat", description := "State, rate and link layer of every port." },
    { command := "ibstat mlx5_0 1", description := "One port of one adapter." }]
  errors := [
    { message := "ibpanic: [...] couldn't init umad library"
      meaning := "The ib_umad kernel module is missing."
      resolution := some "Load it with modprobe ib_umad." }]
  interactions := some {
    reads := [{ domain := "fabric_state", fields := ["port_state", "rate"] }] }

/-- The definition of `perfquery`. -/
def perfquery : Definition where
  command := "perfquery"
  category := "networking"
  description := "Query InfiniBand port counters."
  synopsis := "perfquery [OPTIONS] [LID|GUID] [PORT]"
  options := [
    { short := some "x", long := some "extended", description := "Show extended 64-bit counters." },
    { short := some "a", long := some "all_ports", description := "Query all ports." },
    { short := some "R"
      long := some "Reset_only"
      description := "Reset counters without printing them." },
    { short := some "r"
      long := some "reset_after_read"
      description := "Reset counters after reading." }]
  usage := [
    { command := "perfquery -x", description := "Extended counters on the local port." },
    { command := "sudo perfquery -R"
      description := "Clear counters before a test."
      requiresRoot := true }]
  interactions := some {
    reads := [{ domain := "fabric_state", fields := ["symbol_errors", "link_downed"] }]
    writes := [
      { domain := "fabric_state"
        fields := ["counters_reset"]
        privilege := some "root"
        flags := some ["R", "r"] }] }
  permissions := some { write := some "Resetting counters requires root access to the umad device." }

end ClusterTutor.Content
