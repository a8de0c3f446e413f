/-
# Setting up an engine

An engine for some settings.  The scorer, the shares of the blend and the time of the secondary
assessment follow from the settings unless they are given.
-/
import ThreatScan.Engine.Session
import ThreatScan.Settings.Basic

namespace ThreatScan

/-- The sampler for the seed of the settings, or for another seed if they have none. -/
def Settings.sampler (s : Settings) (other : Int) : Sampler :=
  Sampler.ofSeed (s.scoreSeed.getD other)

/-- The analyzer of files for some settings. -/
def Settings.malwareAnalyzer (s : Settings) (catalog : Catalog) (scorer : Scorer) :
    MalwareAnalyzer where
  catalog
  scorer
  blend := Blend.default
  timeout := s.secondaryTimeout
  entropyThreshold := s.entropyThreshold

/-- An engine for some settings; `usesSecondary` says whether contents are assessed as well, and
the settings decide if it does not. -/
def Engine.ofSettings (s : Settings) (catalog : Catalog) (scorer : Scorer)
    (usesSecondary : Option Bool) (clock : Timestamp) : Engine where
  catalog
  maxBytes := s.scanMaxContentBytes
  digestLength := s.hashDisplayLength
  usesSecondary := usesSecondary.getD s.secondaryEnabled
  assessFile := (s.malwareAnalyzer catalog scorer).analyze
  assessCode := Quality.analyze catalog.advancedVulnerabilities
  clock

end ThreatScan
