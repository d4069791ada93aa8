import DeviceTags.Inventory

/-!
# Configurations

What a configuration says: whether lookups that miss probe, whether the paths of devices are checked,
the priorities of device names, and the declared devices.
-/

namespace DeviceTags

structure Config where
  path : Path
  version : Whole
  probeOnMiss : Bool
  verifyPaths : Bool
  priorities : Priority.Table
  devices : List DeviceSpec

namespace Config

/-- The name of the file in the directory of a configuration. -/
def fileName : String := "blkcache.toml"

def currentVersion : Int := 1

def defaultPriorities : Priority.Table :=
  [("dm-", .integer Priority.deviceMapper), ("md", .integer Priority.softwareArrays)]

def standard (path : Path) : Config where
  path := path
  version := .integer currentVersion
  probeOnMiss := true
  verifyPaths := false
  priorities := defaultPriorities
  devices := []

def fileIn (directory : Path) : Path := directory.child fileName

def inventory (config : Config) : Inventory := ⟨config.devices, config.priorities⟩

end Config

end DeviceTags
