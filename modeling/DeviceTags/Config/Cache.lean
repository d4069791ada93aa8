import DeviceTags.Collaborator
import DeviceTags.Config.Basic

/-!
# The cache of a configuration

A configuration that probes on a miss gives an empty cache, which is filled by the first lookup that
finds nothing. Otherwise the cache is filled at once and has no prober.
-/

namespace DeviceTags.Config

def verifier (config : Config) : Verifier :=
  if config.verifyPaths then .paths none else .trusting

def buildCache (config : Config) : Op CacheId := do
  if config.probeOnMiss then
    Op.newCache { prober := some (.inventory config.inventory), verifier := some config.verifier }
  else
    let c ← Op.newCache { verifier := some config.verifier }
    config.inventory.probe c
    return c

end DeviceTags.Config
