/-
# The catalog

Every table that a scan reads.  The default catalog holds the shipped tables; a narrower one
replaces some of them.
-/
import ThreatScan.Catalog.Malware
import ThreatScan.Catalog.Code
import ThreatScan.Catalog.Indicators

namespace ThreatScan

/-- The tables of signatures and extensions. -/
structure Catalog where
  malware : List Signature := Shipped.malware
  suspicious : List Signature := Shipped.suspicious
  vulnerabilities : List Signature := Shipped.vulnerabilities
  advancedMalware : List Signature := Shipped.advancedMalware
  anomalies : List Signature := Shipped.anomalies
  advancedVulnerabilities : List Signature := Shipped.advancedVulnerabilities
  obfuscation : List Signature := Shipped.obfuscation
  behaviors : List Signature := Shipped.behaviors
  performance : List Signature := Shipped.performance
  suspiciousExtensions : List Text := Shipped.suspiciousExtensions
  executableExtensions : List Text := Shipped.executableExtensions
  version : Text := "2026.1"
deriving Inhabited

namespace Catalog

/-- The shipped catalog. -/
def default : Catalog := {}

/-- The names of the tables. -/
inductive Table where
  | malware
  | suspicious
  | vulnerabilities
  | advancedMalware
  | anomalies
  | advancedVulnerabilities
  | obfuscation
  | behaviors
  | performance
deriving DecidableEq, Repr

/-- The tables in catalog order. -/
def Table.all : List Table := [malware, suspicious, vulnerabilities, advancedMalware, anomalies,
  advancedVulnerabilities, obfuscation, behaviors, performance]

/-- The name of a table. -/
def Table.name : Table → Text
  | .malware => "malware"
  | .suspicious => "suspicious"
  | .vulnerabilities => "vulnerabilities"
  | .advancedMalware => "advanced_malware"
  | .anomalies => "anomalies"
  | .advancedVulnerabilities => "advanced_vulnerabilities"
  | .obfuscation => "obfuscation"
  | .behaviors => "behaviors"
  | .performance => "performance"

/-- The table of a name. -/
def Table.ofName? (t : Text) : Option Table := Table.all.find? fun table => table.name = t

/-- The signatures of a table. -/
def table (c : Catalog) : Table → List Signature
  | .malware => c.malware
  | .suspicious => c.suspicious
  | .vulnerabilities => c.vulnerabilities
  | .advancedMalware => c.advancedMalware
  | .anomalies => c.anomalies
  | .advancedVulnerabilities => c.advancedVulnerabilities
  | .obfuscation => c.obfuscation
  | .behaviors => c.behaviors
  | .performance => c.performance

/-- The catalog with another table in place of one of its own. -/
def withTable (c : Catalog) (signatures : List Signature) : Table → Catalog
  | .malware => { c with malware := signatures }
  | .suspicious => { c with suspicious := signatures }
  | .vulnerabilities => { c with vulnerabilities := signatures }
  | .advancedMalware => { c with advancedMalware := signatures }
  | .anomalies => { c with anomalies := signatures }
  | .advancedVulnerabilities => { c with advancedVulnerabilities := signatures }
  | .obfuscation => { c with obfuscation := signatures }
  | .behaviors => { c with behaviors := signatures }
  | .performance => { c with performance := signatures }

/-- The rule ids of all tables, in catalog order. -/
def ruleIds (c : Catalog) : List Text :=
  Table.all.flatMap fun table => (c.table table).map (·.ruleId)

end Catalog
end ThreatScan
