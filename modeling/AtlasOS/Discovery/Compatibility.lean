import AtlasOS.Lib.Calendar
import AtlasOS.Lib.FirstMatch
import AtlasOS.Lib.Text
import Mathlib.Algebra.Order.Field.Rat
import Mathlib.Data.List.DropRight
import Mathlib.Data.List.Sort
import Mathlib.Data.Prod.Lex
import Mathlib.Order.WithBot

/-!
# Compatibility assessments

`assess_compatibility` checks the requirements of a catalog item against the
facts that were observed of a target. Every check adds evidence, and a check that
does not pass adds a finding; the status is read off the findings.
-/

namespace AtlasOS.Discovery

/-! ## Catalog items -/

/-- `DiscoveryItemStatus` -/
inductive DiscoveryItemStatus where
  | active | deprecated | experimental | unknown
  deriving DecidableEq

/-- The text of a status. -/
def DiscoveryItemStatus.value : DiscoveryItemStatus → String
  | .active => "active"
  | .deprecated => "deprecated"
  | .experimental => "experimental"
  | .unknown => "unknown"

/-- `DiscoveryRelationshipType` -/
inductive DiscoveryRelationshipType where
  | dependsOn | provides | consumes | requires | integratesWith | conflictsWith | runsOn
  | deployedBy | compatibleWith | incompatibleWith
  deriving DecidableEq

/-- The text of a relationship type. -/
def DiscoveryRelationshipType.value : DiscoveryRelationshipType → String
  | .dependsOn => "depends_on"
  | .provides => "provides"
  | .consumes => "consumes"
  | .requires => "requires"
  | .integratesWith => "integrates_with"
  | .conflictsWith => "conflicts_with"
  | .runsOn => "runs_on"
  | .deployedBy => "deployed_by"
  | .compatibleWith => "compatible_with"
  | .incompatibleWith => "incompatible_with"

/-- An amount that is not negative; it may be infinite. -/
abbrev Amount := WithTop ℚ

/-- `ResourceRequirements` -/
structure ResourceRequirements where
  cpu_cores_min : Option Amount
  memory_mb_min : Option Amount
  storage_gb_min : Option Amount
  gpu_required : Bool
  gpu_memory_gb_min : Option Amount

/-- `PlatformRequirements` -/
structure PlatformRequirements where
  architectures : List String
  operating_systems : List String
  runtimes : List String
  devices : List String

/-- `PortRequirement`, without its description. -/
structure PortRequirement where
  port : ℕ
  protocol : String
  direction : String
  required : Bool

/-- `NetworkRequirements`, without its notes. -/
structure NetworkRequirements where
  ports : List PortRequirement
  requires_internet : Bool
  requires_lan : Bool

/-- `DiscoveryRequirements`; a capability is given by its identity. -/
structure DiscoveryRequirements where
  capabilities : List String
  resources : ResourceRequirements
  platform : PlatformRequirements
  network : NetworkRequirements

/-- `DiscoveryRelationship`, without its description and metadata. -/
structure DiscoveryRelationship where
  type : DiscoveryRelationshipType
  target : String
  required : Bool
  minimum_version : Option String
  maximum_version : Option String
  deriving DecidableEq

/-- What an assessment reads of a `DiscoveryItem`, whose relationships
`validate_unique_relationships` has accepted. -/
structure DiscoveryItem where
  id : String
  status : DiscoveryItemStatus
  requirements : DiscoveryRequirements
  relationships : List DiscoveryRelationship
  unique_relationships : (relationships.map fun r => (r.type, r.target)).Nodup

/-- `get_item` of a `DiscoveryRepository` -/
abbrev DiscoveryRepository := String → Option DiscoveryItem

/-! ## Observed facts -/

/-- `ObservedPort`, without its source. -/
structure ObservedPort where
  port : ℕ
  protocol : String
  direction : String
  deriving DecidableEq

/-- What an assessment reads of an `ObservedService`. -/
structure ObservedService where
  id : String
  installed_version : Option String
  deriving DecidableEq

/-- `CompatibilityContext`, without the facts that no check reads. -/
structure CompatibilityContext where
  target_id : String
  target_type : String
  capabilities : Option (List String)
  runtimes : Option (List String)
  operating_system : Option String
  architecture : Option String
  cpu_cores : Option Amount
  memory_mb : Option Amount
  storage_gb : Option Amount
  gpu_available : Option Bool
  gpu_memory_gb : Option Amount
  devices : Option (List String)
  open_ports : Option (List ObservedPort)
  installed_services : Option (List ObservedService)

/-! ## Versions -/

/-- `_MAX_NUMERIC_PART` -/
def MAX_NUMERIC_PART : ℕ := 2 ^ 31 - 1

/-- One part of a strict numeric version. -/
def parseNumericPart (part : List Char) : Option ℕ :=
  if part = [] || !part.all Char.isDigit then none
  else if part.head? = some '0' && part ≠ ['0'] then none
  else if MAX_NUMERIC_PART < readNumber part then none
  else some (readNumber part)

/-- A version by its three numbers, in lexicographic order. -/
abbrev VersionKey := ℕ ×ₗ ℕ ×ₗ ℕ

/-- `parse_strict_numeric_version` -/
def parseStrictNumericVersion : Option String → Option VersionKey
  | none => none
  | some version =>
      match version.toList.splitOn '.' with
      | [major, minor, patch] => do
          let major ← parseNumericPart major
          let minor ← parseNumericPart minor
          let patch ← parseNumericPart patch
          return toLex (major, toLex (minor, patch))
      | _ => none

/-- `installed_version_key` -/
def installedVersionKey (service : ObservedService) : Option VersionKey :=
  parseStrictNumericVersion service.installed_version

/-! ## Checks -/

/-- `CompatibilityStatus` -/
inductive CompatibilityStatus where
  | compatible | compatibleWithWarnings | insufficientInformation | incompatible
  deriving DecidableEq

/-- `CompatibilityFindingSeverity` -/
inductive CompatibilityFindingSeverity where
  | blocker | warning | info | unknown
  deriving DecidableEq

/-- `CompatibilityCheckType` -/
inductive CompatibilityCheckType where
  | capability | resource | platform | network | relationship | catalog | version
  deriving DecidableEq

/-- What a check adds: evidence, with a finding of the given severity, and a fact that is
unknown. -/
structure Check where
  check_type : CompatibilityCheckType
  subject : String
  status : CompatibilityStatus
  message : String
  source : String
  requirement : Option String
  observed : Option String
  observed_fact_id : Option String
  severity : Option CompatibilityFindingSeverity
  unknown_fact : Option String

/-- A check that only adds evidence, by `_add_evidence`. -/
def evidenceCheck (check_type : CompatibilityCheckType) (subject message source requirement
    observed : String) (observed_fact_id : Option String) : Check where
  check_type := check_type
  subject := subject
  status := .compatible
  message := message
  source := source
  requirement := some requirement
  observed := some observed
  observed_fact_id := observed_fact_id
  severity := none
  unknown_fact := none

/-- `_unknown` -/
def unknownCheck (check_type : CompatibilityCheckType) (subject requirement fact_name
    message : String) : Check where
  check_type := check_type
  subject := subject
  status := .insufficientInformation
  message := message
  source := "compatibility_context"
  requirement := some requirement
  observed := some "unknown"
  observed_fact_id := some fact_name
  severity := some .unknown
  unknown_fact := some fact_name

/-- `_incompatible` -/
def incompatibleCheck (check_type : CompatibilityCheckType) (subject requirement : String)
    (observed : Option String) (message : String) (observed_fact_id : String) : Check where
  check_type := check_type
  subject := subject
  status := .incompatible
  message := message
  source := "compatibility_context"
  requirement := some requirement
  observed := observed
  observed_fact_id := some observed_fact_id
  severity := some .blocker
  unknown_fact := none

/-- `_fact_id` -/
def factId (kind value : String) : String := kind ++ ":" ++ value

/-- `text.rstrip("s")` -/
def rstripS (text : String) : String := String.ofList (text.toList.rdropWhile (· = 's'))

/-- `", ".join(observed) if observed else "none"` -/
def joinedOrNone (observed : List String) : String :=
  if observed = [] then "none" else join ", " observed

/-- `_evaluate_catalog_status` -/
def evaluateCatalogStatus (item : DiscoveryItem) : List Check :=
  if item.status = .active then
    [evidenceCheck .catalog "item.status" "Catalog item status is active." "catalog" "active"
      item.status.value none]
  else
    [{ evidenceCheck .catalog "item.status" ("Catalog item status is " ++ item.status.value ++ ".")
        "catalog" "active" item.status.value none with
      status := .compatibleWithWarnings, severity := some .warning }]

/-- The check of one capability. -/
def capabilityCheck (observed : Option (List String)) (capability : String) : Check :=
  let subject := "requirements.capabilities." ++ capability
  match observed with
  | none =>
      unknownCheck .capability subject capability "capabilities"
        ("Required capability '" ++ capability ++
          "' cannot be evaluated because observed capabilities are unknown.")
  | some observed =>
      if capability ∈ observed then
        evidenceCheck .capability subject ("Required capability '" ++ capability ++ "' is present.")
          "compatibility_context" capability capability (some (factId "capability" capability))
      else
        incompatibleCheck .capability subject capability (some (joinedOrNone observed))
          ("Required capability '" ++ capability ++ "' is not present.")
          (factId "capability" capability)

/-- `_evaluate_capabilities` -/
def evaluateCapabilities (item : DiscoveryItem) (context : CompatibilityContext) : List Check :=
  item.requirements.capabilities.map (capabilityCheck context.capabilities)

/-- `_evaluate_minimum`, with the text of an amount in the format `g`. -/
def evaluateMinimum (general : Amount → String) (check_type : CompatibilityCheckType)
    (subject : String) (requirement observed : Option Amount) (fact_name unit : String) :
    List Check :=
  match requirement with
  | none => []
  | some requirement =>
      let required := general requirement ++ " " ++ unit
      match observed with
      | none =>
          [unknownCheck check_type subject required fact_name
            ("Requirement " ++ subject ++ " cannot be evaluated because observed " ++ fact_name ++
              " is unknown.")]
      | some observed =>
          let seen := general observed ++ " " ++ unit
          if requirement ≤ observed then
            [evidenceCheck check_type subject
              ("Observed " ++ seen ++ " satisfies required " ++ required ++ ".")
              "compatibility_context" required seen (some fact_name)]
          else
            [incompatibleCheck check_type subject required (some seen)
              ("Observed " ++ seen ++ " is below required " ++ required ++ ".") fact_name]

/-- The check of a required GPU. -/
def gpuCheck (gpu_available : Option Bool) : Check :=
  let subject := "requirements.resources.gpu_required"
  match gpu_available with
  | none =>
      unknownCheck .resource subject "true" "gpu_available"
        "GPU requirement cannot be evaluated because GPU availability is unknown."
  | some true =>
      evidenceCheck .resource subject "Required GPU availability is present."
        "compatibility_context" "true" "true" (some "gpu_available")
  | some false =>
      incompatibleCheck .resource subject "true" (some "false")
        "Required GPU availability is not present." "gpu_available"

/-- `_evaluate_resources` -/
def evaluateResources (general : Amount → String) (item : DiscoveryItem)
    (context : CompatibilityContext) : List Check :=
  let resources := item.requirements.resources
  evaluateMinimum general .resource "requirements.resources.cpu_cores_min" resources.cpu_cores_min
      context.cpu_cores "cpu_cores" "CPU cores" ++
    evaluateMinimum general .resource "requirements.resources.memory_mb_min"
      resources.memory_mb_min context.memory_mb "memory_mb" "MB memory" ++
    evaluateMinimum general .resource "requirements.resources.storage_gb_min"
      resources.storage_gb_min context.storage_gb "storage_gb" "GB storage" ++
    (if resources.gpu_required then [gpuCheck context.gpu_available] else []) ++
    evaluateMinimum general .resource "requirements.resources.gpu_memory_gb_min"
      resources.gpu_memory_gb_min context.gpu_memory_gb "gpu_memory_gb" "GB GPU memory"

/-- `_evaluate_allowed_values` -/
def evaluateAllowedValues (subject : String) (required : List String) (observed : Option String)
    (fact_name : String) : List Check :=
  if required = [] then []
  else
    match observed with
    | none =>
        [unknownCheck .platform subject (join ", " required) fact_name
          ("Requirement " ++ subject ++ " cannot be evaluated because " ++ fact_name ++
            " is unknown.")]
    | some observed =>
        if observed ∈ required then
          [evidenceCheck .platform subject
            ("Observed " ++ fact_name ++ " '" ++ observed ++ "' is allowed.")
            "compatibility_context" (join ", " required) observed (some fact_name)]
        else
          [incompatibleCheck .platform subject (join ", " required) (some observed)
            ("Observed " ++ fact_name ++ " '" ++ observed ++ "' is not allowed.") fact_name]

/-- The check of one value of a required set. -/
def requiredValueCheck (subject : String) (observed : List String) (fact_name value : String) :
    Check :=
  let fact := factId (rstripS fact_name) value
  if value ∈ observed then
    evidenceCheck .platform (subject ++ "." ++ value)
      ("Required " ++ fact_name ++ " value '" ++ value ++ "' is present.") "compatibility_context"
      value value (some fact)
  else
    incompatibleCheck .platform (subject ++ "." ++ value) value (some (joinedOrNone observed))
      ("Required " ++ fact_name ++ " value '" ++ value ++ "' is not present.") fact

/-- `_evaluate_required_set` -/
def evaluateRequiredSet (subject : String) (required : List String)
    (observed : Option (List String)) (fact_name : String) : List Check :=
  if required = [] then []
  else
    match observed with
    | none =>
        [unknownCheck .platform subject (join ", " required) fact_name
          ("Requirement " ++ subject ++ " cannot be evaluated because " ++ fact_name ++
            " are unknown.")]
    | some observed => required.map (requiredValueCheck subject observed fact_name)

/-- `_evaluate_platform` -/
def evaluatePlatform (item : DiscoveryItem) (context : CompatibilityContext) : List Check :=
  let platform := item.requirements.platform
  evaluateAllowedValues "requirements.platform.architectures" platform.architectures
      context.architecture "architecture" ++
    evaluateAllowedValues "requirements.platform.operating_systems" platform.operating_systems
      context.operating_system "operating_system" ++
    evaluateRequiredSet "requirements.platform.runtimes" platform.runtimes context.runtimes
      "runtimes" ++
    evaluateRequiredSet "requirements.platform.devices" platform.devices context.devices "devices"

/-- Whether a port is the required one. -/
def ObservedPort.meets (observed : ObservedPort) (port : PortRequirement) : Bool :=
  decide (observed.port = port.port) && decide (observed.protocol = port.protocol) &&
    decide (observed.direction = port.direction)

/-- The check of one port. -/
def portCheck (open_ports : Option (List ObservedPort)) (port : PortRequirement) : Check :=
  let number := toString port.port
  let subject := "requirements.network.ports." ++ port.protocol ++ "." ++ number ++ "." ++
    port.direction
  let requirement := port.direction ++ " " ++ port.protocol ++ "/" ++ number
  let fact := "port:" ++ port.protocol ++ ":" ++ number ++ ":" ++ port.direction
  match open_ports with
  | none =>
      if port.required then
        unknownCheck .network subject requirement "open_ports"
          ("Required port " ++ requirement ++
            " cannot be evaluated because observed ports are unknown.")
      else
        evidenceCheck .network subject
          ("Optional port " ++ requirement ++ " is documented but not required.") "catalog"
          requirement "not required" none
  | some open_ports =>
      if open_ports.any (·.meets port) then
        evidenceCheck .network subject ("Observed port " ++ requirement ++ " is present.")
          "compatibility_context" requirement requirement (some fact)
      else if port.required then
        incompatibleCheck .network subject requirement (some "not observed")
          ("Required port " ++ requirement ++ " is not observed.") fact
      else
        evidenceCheck .network subject ("Optional port " ++ requirement ++ " is not required.")
          "catalog" requirement "not observed" none

/-- `_evaluate_network` -/
def evaluateNetwork (item : DiscoveryItem) (context : CompatibilityContext) : List Check :=
  let network := item.requirements.network
  (if network.requires_internet then
    [unknownCheck .network "requirements.network.requires_internet" "true" "internet_reachability"
      "Internet reachability cannot be evaluated from current observed facts."] else []) ++
    (if network.requires_lan then
      [unknownCheck .network "requirements.network.requires_lan" "true" "lan_reachability"
        "LAN reachability cannot be evaluated from current observed facts."] else []) ++
    network.ports.map (portCheck context.open_ports)

/-! ## Relationships -/

/-- The relationships that ask for the presence of their target. -/
def DiscoveryRelationshipType.asksPresence : DiscoveryRelationshipType → Bool
  | .dependsOn | .integratesWith | .runsOn | .deployedBy | .compatibleWith => true
  | .provides | .consumes | .requires | .conflictsWith | .incompatibleWith => false

/-- `f"relationships.{relationship.type}.{relationship.target}"` -/
def DiscoveryRelationship.subject (r : DiscoveryRelationship) : String :=
  "relationships." ++ r.type.value ++ "." ++ r.target

/-- `_service_named` -/
def serviceNamed (item_id : String) (services : List ObservedService) : Option ObservedService :=
  firstWith ObservedService.id item_id services

/-- `_service_present` -/
def servicePresent (item_id : String) (services : List ObservedService) : Bool :=
  services.any fun service => service.id = item_id

/-- `_version_bound_requirement` -/
def versionBoundRequirement (minimum maximum : Option String) : String :=
  join " " ((minimum.map (">=" ++ ·)).toList ++ (maximum.map ("<=" ++ ·)).toList)

/-- `_evaluate_version_bounds` -/
def evaluateVersionBounds (r : DiscoveryRelationship) (target : DiscoveryItem)
    (service : ObservedService) : List Check :=
  if r.minimum_version = none ∧ r.maximum_version = none then []
  else
    let subject := r.subject ++ ".version"
    let fact_name := factId "installed_version" target.id
    let requirement := versionBoundRequirement r.minimum_version r.maximum_version
    let shown := "'" ++ service.installed_version.getD "None" ++ "'"
    let minimum_key := parseStrictNumericVersion r.minimum_version
    let maximum_key := parseStrictNumericVersion r.maximum_version
    match installedVersionKey service with
    | some version_key =>
        if (r.minimum_version ≠ none ∧ minimum_key = none) ∨
            (r.maximum_version ≠ none ∧ maximum_key = none) then
          [unknownCheck .version subject requirement fact_name
            ("Version bounds " ++ requirement ++ " for required relationship target '" ++
              r.target ++ "' cannot be evaluated because a version is missing or not a strict " ++
              "numeric X.Y.Z version.")]
        else if minimum_key.any fun key => version_key < key then
          [incompatibleCheck .version subject requirement service.installed_version
            ("Observed installed version " ++ shown ++ " is below required minimum version '" ++
              r.minimum_version.getD "None" ++ "'.") fact_name]
        else if maximum_key.any fun key => key < version_key then
          [incompatibleCheck .version subject requirement service.installed_version
            ("Observed installed version " ++ shown ++ " is above required maximum version '" ++
              r.maximum_version.getD "None" ++ "'.") fact_name]
        else
          [{ evidenceCheck .version subject
              ("Observed installed version " ++ shown ++ " satisfies version bounds " ++
                requirement ++ ".") "compatibility_context" requirement "" (some fact_name) with
            observed := service.installed_version }]
    | none =>
        [unknownCheck .version subject requirement fact_name
          ("Version bounds " ++ requirement ++ " for required relationship target '" ++
            r.target ++ "' cannot be evaluated because a version is missing or not a strict " ++
            "numeric X.Y.Z version.")]

/-- The checks of one relationship. -/
def evaluateRelationship (context : CompatibilityContext) (repository : DiscoveryRepository)
    (r : DiscoveryRelationship) : List Check :=
  match repository r.target with
  | none =>
      if r.required then
        [unknownCheck .relationship r.subject r.target ("relationship:" ++ r.target)
          ("Required relationship target '" ++ r.target ++
            "' is not resolved in the Discovery repository.")]
      else
        [evidenceCheck .relationship r.subject
          ("Optional relationship target '" ++ r.target ++ "' is unresolved and not required.")
          "catalog" r.target "optional unresolved" none]
  | some target =>
      if !r.required then
        [evidenceCheck .relationship r.subject
          ("Optional relationship target '" ++ r.target ++ "' is present in the catalog.")
          "catalog" r.target target.id none]
      else if r.type.asksPresence then
        match context.installed_services with
        | none =>
            [unknownCheck .relationship r.subject r.target "installed_services"
              ("Required relationship target '" ++ r.target ++
                "' cannot be evaluated because installed services are unknown.")]
        | some services =>
            match serviceNamed target.id services with
            | some service =>
                evidenceCheck .relationship r.subject
                    ("Required relationship target '" ++ r.target ++ "' is observed.")
                    "compatibility_context" r.target target.id (some (factId "service" target.id))
                  :: evaluateVersionBounds r target service
            | none =>
                [incompatibleCheck .relationship r.subject r.target (some "not observed")
                  ("Required relationship target '" ++ r.target ++ "' is not observed.")
                  (factId "service" target.id)]
      else if r.type = .conflictsWith then
        match context.installed_services with
        | none =>
            [unknownCheck .relationship r.subject ("absence of " ++ r.target) "installed_services"
              ("Conflict relationship target '" ++ r.target ++
                "' cannot be evaluated because installed services are unknown.")]
        | some services =>
            if servicePresent target.id services then
              [incompatibleCheck .relationship r.subject ("absence of " ++ r.target)
                (some target.id)
                ("Conflicting relationship target '" ++ r.target ++ "' is observed.")
                (factId "service" target.id)]
            else
              [evidenceCheck .relationship r.subject
                ("Conflicting target '" ++ r.target ++ "' is not observed.")
                "compatibility_context" ("absence of " ++ r.target) "not observed"
                (some (factId "service" target.id))]
      else
        -- No branch for provides, consumes, requires and incompatible_with.
        []

/-- `_evaluate_relationships` -/
def evaluateRelationships (item : DiscoveryItem) (context : CompatibilityContext)
    (repository : DiscoveryRepository) : List Check :=
  item.relationships.flatMap (evaluateRelationship context repository)

/-- `evaluate` -/
def evaluate (general : Amount → String) (item : DiscoveryItem) (context : CompatibilityContext)
    (repository : DiscoveryRepository) : List Check :=
  evaluateCatalogStatus item ++ evaluateCapabilities item context ++
    evaluateResources general item context ++ evaluatePlatform item context ++
    evaluateNetwork item context ++ evaluateRelationships item context repository

/-! ## Assessments -/

/-- `CompatibilityEvidence` -/
structure CompatibilityEvidence where
  id : String
  check_type : CompatibilityCheckType
  subject : String
  status : CompatibilityStatus
  message : String
  source : String
  requirement : Option String
  observed : Option String
  observed_fact_id : Option String

/-- `CompatibilityFinding` -/
structure CompatibilityFinding where
  id : String
  check_type : CompatibilityCheckType
  severity : CompatibilityFindingSeverity
  status : CompatibilityStatus
  subject : String
  message : String
  evidence_ids : List String

/-- `f"{mark}{number:04d}"` -/
def numbered (mark : Char) (number : ℕ) : String :=
  String.ofList (mark :: List.leftpad 4 '0' (toString number).toList)

/-- `_AssessmentBuilder` -/
structure AssessmentBuilder where
  evidence : List CompatibilityEvidence
  findings : List CompatibilityFinding
  unknown_facts : List String

namespace AssessmentBuilder

/-- `_add_evidence` of a check. -/
def addEvidence (b : AssessmentBuilder) (c : Check) : CompatibilityEvidence × AssessmentBuilder :=
  let evidence : CompatibilityEvidence :=
    { id := numbered 'e' (b.evidence.length + 1)
      check_type := c.check_type
      subject := c.subject
      status := c.status
      message := c.message
      source := c.source
      requirement := c.requirement
      observed := c.observed
      observed_fact_id := c.observed_fact_id }
  (evidence, { b with evidence := b.evidence ++ [evidence] })

/-- `_add_finding` of a check. -/
def addFinding (b : AssessmentBuilder) (c : Check) (severity : CompatibilityFindingSeverity)
    (evidence_ids : List String) : AssessmentBuilder :=
  { b with
    findings := b.findings ++
      [{ id := numbered 'f' (b.findings.length + 1)
         check_type := c.check_type
         severity
         status := c.status
         subject := c.subject
         message := c.message
         evidence_ids }] }

/-- What a check adds to the builder. -/
def add (b : AssessmentBuilder) (c : Check) : AssessmentBuilder :=
  let b := { b with unknown_facts := b.unknown_facts ++ c.unknown_fact.toList }
  let (evidence, b) := b.addEvidence c
  match c.severity with
  | none => b
  | some severity => b.addFinding c severity [evidence.id]

end AssessmentBuilder

/-- `_aggregate_status` -/
def aggregateStatus (findings : List CompatibilityFinding) : CompatibilityStatus :=
  let statuses := findings.map (·.status)
  if .incompatible ∈ statuses then .incompatible
  else if .insufficientInformation ∈ statuses then .insufficientInformation
  else if .compatibleWithWarnings ∈ statuses then .compatibleWithWarnings
  else .compatible

/-- `CompatibilityAssessment`, without the time at which it is made. -/
structure CompatibilityAssessment where
  item_id : String
  target_id : String
  target_type : String
  status : CompatibilityStatus
  findings : List CompatibilityFinding
  evidence : List CompatibilityEvidence
  unknown_facts : List String

/-- `validate_findings_reference_evidence` -/
def CompatibilityAssessment.validate (a : CompatibilityAssessment) : Except PyError Unit :=
  require (a.findings.all fun finding => finding.evidence_ids.all fun id =>
      id ∈ a.evidence.map (·.id))
    (.valueError "findings must reference existing evidence ids.")

/-- `assess_compatibility` -/
def assessCompatibility (general : Amount → String) (item : DiscoveryItem)
    (context : CompatibilityContext) (repository : DiscoveryRepository) :
    Except PyError CompatibilityAssessment := do
  let builder := (evaluate general item context repository).foldl AssessmentBuilder.add ⟨[], [], []⟩
  let assessment : CompatibilityAssessment :=
    { item_id := item.id
      target_id := context.target_id
      target_type := context.target_type
      status := aggregateStatus builder.findings
      findings := builder.findings
      evidence := builder.evidence
      unknown_facts := builder.unknown_facts.dedup.insertionSort (· ≤ ·) }
  assessment.validate
  return assessment

end AtlasOS.Discovery
