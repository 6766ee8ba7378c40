import Attestor.Policy

namespace Attestor.Policy

def findings (threshold : Severity) (scan : List Vulnerability) : List String :=
  (scan.filter fun finding => threshold ≤ finding.severity).map (·.name)

def scanned (threshold : Severity) (scan : List Vulnerability) : Verdict :=
  match findings threshold scan with
  | [] => .value ()
  | names => .failure (.rejected (.vulnerable names.length names))

def snakeoil (metadata : MetadataService) (threshold : Severity) (image : ImageReference) :
    Verdict := do
  let scan ← (metadata.vulnerabilities image).mapError .metadata
  scanned threshold scan

end Attestor.Policy
