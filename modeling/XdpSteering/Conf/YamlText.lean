import XdpSteering.Conf
import XdpSteering.Yaml.ScalarText

/-!
# Configurations as YAML text

A configuration is written as a mapping with its settings in a fixed order, and each section as a
mapping of its own.
-/

namespace XdpSteering

open XdpSteering.Yaml

def ProgramConf.yamlText (conf : ProgramConf) : String :=
  textEntry indentStep "object_path" conf.objectPath
    ++ flagEntry indentStep "pin_link" conf.pinLink
    ++ String.join (conf.linkPinPath.toList.map (textEntry indentStep "link_pin_path"))

def TraceConf.yamlText (conf : TraceConf) : String :=
  flagEntry indentStep "enabled" conf.enabled

def SocketMapConf.yamlText (conf : SocketMapConf) : String :=
  numberEntry indentStep "capacity" conf.capacity.toNat
    ++ textEntry indentStep "pin_path" conf.pinPath
    ++ flagEntry indentStep "persist" conf.persist

/-- The configuration as a YAML document. The file that it comes from is not written. -/
def Conf.yamlText (conf : Conf) : String :=
  textEntry 0 "interface" conf.interface
    ++ textEntry 0 "log_level" conf.logLevel.name
    ++ textEntry 0 "attach_mode" conf.attachMode.name
    ++ mappingEntry 0 "program" conf.program.yamlText
    ++ mappingEntry 0 "trace" conf.trace.yamlText
    ++ mappingEntry 0 "socket_map" conf.socketMap.yamlText

end XdpSteering
