import ClusterTutor.Definition.Basic

/-!
# Hardware tools

The management controller, the tables of the firmware and the sensors of the board.
-/

namespace ClusterTutor.Content

/-- The definition of `dmidecode`. -/
def dmidecode : Definition where
  command := "dmidecode"
  category := "system_info"
  description := "Dump SMBIOS hardware tables."
  synopsis := "dmidecode [OPTIONS]"
  options := [
    { short := some "t"
      long := some "type"
      arguments := some "TYPE"
      description := "Only show entries of TYPE (bios, system, memory, processor, slot)." },
    { short := some "s"
      long := some "string"
      arguments := some "KEYWORD"
      description := "Only show the value of one DMI string." },
    { short := some "q", long := some "quiet", description := "Less verbose output." }]
  usage := [
    { command := "sudo dmidecode -t memory"
      description := "DIMM population and speeds."
      requiresRoot := true },
    { command := "sudo dmidecode -s system-serial-number"
      description := "Chassis serial for RMA."
      requiresRoot := true }]
  permissions := some { read := some "Reading /dev/mem requires root." }

/-- The definition of `ipmitool`. -/
def ipmitool : Definition where
  command := "ipmitool"
  category := "firmware"
  description := "Talk to the baseboard management controller over IPMI."
  synopsis := "ipmitool [-I interface] [-H host] [-U user] [-P password] <subcommand> [args]"
  options := [
    { short := some "I"
      arguments := some "INTERFACE"
      description := "Interface: open (local) or lanplus (remote)." },
    { short := some "H", arguments := some "HOST", description := "Remote BMC address." },
    { short := some "U", arguments := some "USER", description := "Remote BMC user." },
    { short := some "P", arguments := some "PASSWORD", description := "Remote BMC password." },
    { short := some "v", description := "Verbose output." }]
  subcommands := [
    { name := "sensor", description := "List sensors and thresholds." },
    { name := "sdr", description := "Print the sensor data repository." },
    { name := "sel", description := "Show or clear the system event log." },
    { name := "chassis", description := "Chassis status and power control." },
    { name := "power", description := "Shortcut for chassis power." },
    { name := "lan", description := "BMC network configuration." },
    { name := "mc", description := "Management controller info and reset." },
    { name := "fru", description := "Field replaceable unit inventory." }]
  exitCodes := [
    { code := 0, meaning := "Success" },
    { code := 1, meaning := "Command failed or BMC unreachable" }]
  usage := [
    { command := "ipmitool sel list", description := "Read the hardware event log." },
    { command := "ipmitool sensor", description := "All sensor readings." },
    { command := "ipmitool -I lanplus -H 10.0.0.10 -U admin -P secret power status"
      description := "Remote power state." }]
  errors := [
    { message := "Could not open device at /dev/ipmi0"
      meaning := "The ipmi_devintf module is not loaded or you lack access."
      resolution := some "Load ipmi_devintf and run as root." }]
  interactions := some {
    reads := [{ domain := "bmc_state", fields := ["power_state", "sel_entries"] }] }
  permissions := some { read := some "Local access needs root for /dev/ipmi0."
                        write := some "Power control and SEL clear need BMC ADMINISTRATOR privilege." }

/-- The definition of `sensors`. -/
def sensors : Definition where
  command := "sensors"
  category := "system_info"
  description := "Print lm-sensors temperature, voltage and fan readings."
  synopsis := "sensors [OPTIONS] [CHIP]"
  options := [
    { short := some "f"
      long := some "fahrenheit"
      description := "Show temperatures in Fahrenheit." },
    { short := some "A", long := some "no-adapter", description := "Hide the adapter line." },
    { short := some "j", description := "JSON output." },
    { short := some "u", description := "Raw output." }]
  usage := [{ command := "sensors", description := "All chips." }]
  interactions := some {
    reads := [{ domain := "bmc_state", fields := ["inlet_temperature"] }] }

end ClusterTutor.Content
