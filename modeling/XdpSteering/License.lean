/-!
# License declarations

The license strings the kernel takes as compatible with its own, one of which the object declares.
-/

namespace XdpSteering

inductive License where
  | gpl
  | gplV2
  | dualBsdGpl
  | dualMitGpl
  | dualMplGpl
  deriving DecidableEq, Repr

namespace License

/-- The license declared when nothing else is asked for. -/
def default : License := .gpl

/-- The string the kernel recognises. -/
def name : License → String
  | .gpl => "GPL"
  | .gplV2 => "GPL v2"
  | .dualBsdGpl => "Dual BSD/GPL"
  | .dualMitGpl => "Dual MIT/GPL"
  | .dualMplGpl => "Dual MPL/GPL"

/-- The contents of the object's license section: the name and a closing zero. -/
def licenseSection (license : License) : List UInt8 :=
  license.name.toUTF8.toList ++ [0]

/-- The name under which a build asks for a license. -/
def feature : License → String
  | .gpl => "gpl"
  | .gplV2 => "gpl-v2"
  | .dualBsdGpl => "dual-bsd-gpl"
  | .dualMitGpl => "dual-mit-gpl"
  | .dualMplGpl => "dual-mpl-gpl"

/-- The licenses a build can ask for, the one that wins over the others first. -/
def precedence : List License := [.dualBsdGpl, .dualMitGpl, .dualMplGpl, .gplV2]

/-- The license declared by a build with these features: the first that is asked for. -/
def ofFeatures (features : List String) : License :=
  (precedence.find? fun license => features.contains license.feature).getD default

end License

end XdpSteering
