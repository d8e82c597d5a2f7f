import AtlasOS.Discovery.Compatibility
import Mathlib.Data.List.Dedup
import Mathlib.Data.Option.Basic

/-!
# Compatibility verdicts

What the status of an assessment is expected to say: each requirement of the item
is met, contradicted or left open by the known facts. The status says so unless
a required relationship has a type that no check handles, or several observations
of one service disagree about a version.
-/

namespace AtlasOS.Discovery

/-! ## Requirements and decisions -/

/-- What the known facts say of a requirement. -/
inductive Decision where
  | met | undecided | contradicted
  deriving DecidableEq

/-- The decision by a fact, when it is known. -/
def decideBy {α : Type} (known : Option α) (test : α → Bool) : Decision :=
  match known with
  | none => .undecided
  | some fact => if test fact then .met else .contradicted

/-- The resources with a minimum. -/
inductive Resource where
  | cpuCores | memoryMb | storageGb | gpuMemoryGb

/-- The minimum of a resource. -/
def Resource.minimum (requirements : ResourceRequirements) : Resource → Option Amount
  | .cpuCores => requirements.cpu_cores_min
  | .memoryMb => requirements.memory_mb_min
  | .storageGb => requirements.storage_gb_min
  | .gpuMemoryGb => requirements.gpu_memory_gb_min

/-- The observed amount of a resource. -/
def Resource.observed (context : CompatibilityContext) : Resource → Option Amount
  | .cpuCores => context.cpu_cores
  | .memoryMb => context.memory_mb
  | .storageGb => context.storage_gb
  | .gpuMemoryGb => context.gpu_memory_gb

/-- What an item declares, one requirement at a time. -/
inductive Requirement where
  | capability (id : String)
  | resource (kind : Resource) (amount : Amount)
  | gpu
  | architecture (allowed : List String)
  | operatingSystem (allowed : List String)
  | runtime (value : String)
  | device (value : String)
  | internet
  | lan
  | port (p : PortRequirement)
  | relationship (r : DiscoveryRelationship)
  | version (r : DiscoveryRelationship)

/-- The requirement that a value is one of those allowed, when there are any. -/
def allowedRequirement (requirement : List String → Requirement) (allowed : List String) :
    List Requirement :=
  if allowed = [] then [] else [requirement allowed]

/-- The requirement of a minimum, when there is one. -/
def minimumRequirement (requirements : ResourceRequirements) (r : Resource) : List Requirement :=
  ((r.minimum requirements).map (Requirement.resource r)).toList

/-- Whether a check handles required relationships of a type. -/
def DiscoveryRelationshipType.handled (type : DiscoveryRelationshipType) : Bool :=
  type.asksPresence || decide (type = .conflictsWith)

/-- Whether a relationship has version bounds that are checked. -/
def DiscoveryRelationship.bounded (r : DiscoveryRelationship) : Bool :=
  r.required && r.type.asksPresence && (r.minimum_version.isSome || r.maximum_version.isSome)

/-- The requirements of an item beside its relationships. -/
def DiscoveryItem.declared (item : DiscoveryItem) : List Requirement :=
  let requirements := item.requirements
  requirements.capabilities.map .capability ++
    (minimumRequirement requirements.resources .cpuCores ++
      minimumRequirement requirements.resources .memoryMb ++
      minimumRequirement requirements.resources .storageGb ++
      (if requirements.resources.gpu_required then [.gpu] else []) ++
      minimumRequirement requirements.resources .gpuMemoryGb) ++
    (allowedRequirement .architecture requirements.platform.architectures ++
      allowedRequirement .operatingSystem requirements.platform.operating_systems ++
      requirements.platform.runtimes.map .runtime ++ requirements.platform.devices.map .device) ++
    ((if requirements.network.requires_internet then [.internet] else []) ++
      (if requirements.network.requires_lan then [.lan] else []) ++
      (requirements.network.ports.filter (·.required)).map .port)

/-- The requirements of an item. -/
def DiscoveryItem.requirementList (item : DiscoveryItem) : List Requirement :=
  item.declared ++ (item.relationships.filter (·.required)).map .relationship ++
    (item.relationships.filter (·.bounded)).map .version

/-- What a version says of the bounds of a relationship. -/
def versionDecision (r : DiscoveryRelationship) (service : ObservedService) : Decision :=
  match installedVersionKey service with
  | none => .undecided
  | some key =>
      let minimum := parseStrictNumericVersion r.minimum_version
      let maximum := parseStrictNumericVersion r.maximum_version
      if (r.minimum_version.isSome && minimum.isNone) ||
          (r.maximum_version.isSome && maximum.isNone) then .undecided
      else if minimum.any (key < ·) || maximum.any (· < key) then .contradicted
      else .met

/-- The worst of the decisions, which is open when there are none. -/
def worst (decisions : List Decision) : Decision :=
  if .contradicted ∈ decisions then .contradicted
  else if .undecided ∈ decisions ∨ decisions = [] then .undecided
  else .met

/-- The observed services. -/
def CompatibilityContext.services (context : CompatibilityContext) : List ObservedService :=
  context.installed_services.getD []

section Decisions

variable (repository : DiscoveryRepository) (other : DiscoveryRelationship → Decision)
  (context : CompatibilityContext)

/-- What is known of the target of a required relationship. What the facts say of the types that
no check handles is given. -/
def relationshipDecision (r : DiscoveryRelationship) : Decision :=
  match repository r.target with
  | none => .undecided
  | some target =>
      if r.type.asksPresence then decideBy context.installed_services (servicePresent target.id)
      else if r.type = .conflictsWith then
        decideBy context.installed_services fun services => !servicePresent target.id services
      else other r

/-- What is known of the version of the target of a relationship, by all its observations. -/
def boundsDecision (r : DiscoveryRelationship) : Decision :=
  match repository r.target with
  | none => .undecided
  | some target =>
      worst ((context.services.filter (·.id = target.id)).map (versionDecision r))

/-- What the known facts say of a requirement. -/
def Requirement.decision : Requirement → Decision
  | .capability id => decideBy context.capabilities (id ∈ ·)
  | .resource kind amount => decideBy (kind.observed context) (amount ≤ ·)
  | .gpu => decideBy context.gpu_available id
  | .architecture allowed => decideBy context.architecture (· ∈ allowed)
  | .operatingSystem allowed => decideBy context.operating_system (· ∈ allowed)
  | .runtime value => decideBy context.runtimes (value ∈ ·)
  | .device value => decideBy context.devices (value ∈ ·)
  | .internet | .lan => .undecided
  | .port p => decideBy context.open_ports fun ports => ports.any (·.meets p)
  | .relationship r => relationshipDecision repository other context r
  | .version r => boundsDecision repository context r

end Decisions

/-! ## Checks and requirements -/

/-- What the status of a check says. -/
def CompatibilityStatus.decision : CompatibilityStatus → Decision
  | .compatible | .compatibleWithWarnings => .met
  | .insufficientInformation => .undecided
  | .incompatible => .contradicted

/-- A level of decisions above those that are met. -/
structure Level where
  holds : Decision → Prop
  not_met : ¬ holds .met
  contradicted : holds .contradicted

/-- The contradicted decisions. -/
def contradictedLevel : Level := ⟨(· = .contradicted), by simp, rfl⟩

/-- The decisions that are not met. -/
def openLevel : Level := ⟨(· ≠ .met), by simp, by simp⟩

/-- Some check is at a level. -/
def Raised (level : Level) (checks : List Check) : Prop :=
  ∃ c ∈ checks, level.holds c.status.decision

variable {level : Level}

theorem raised_append {first second : List Check} :
    Raised level (first ++ second) ↔ Raised level first ∨ Raised level second := by
  simp [Raised, or_and_right, exists_or]

@[simp] theorem raised_nil : ¬ Raised level [] := by simp [Raised]

theorem raised_singleton {c : Check} : Raised level [c] ↔ level.holds c.status.decision := by
  simp [Raised]

theorem raised_cons {c : Check} {rest : List Check} :
    Raised level (c :: rest) ↔ level.holds c.status.decision ∨ Raised level rest := by
  simp [Raised]

theorem raised_map {α : Type} {check : α → Check} {items : List α} :
    Raised level (items.map check) ↔ ∃ a ∈ items, level.holds (check a).status.decision := by
  simp [Raised]

theorem raised_flatMap {α : Type} {checks : α → List Check} {items : List α} :
    Raised level (items.flatMap checks) ↔ ∃ a ∈ items, Raised level (checks a) := by
  constructor
  · rintro ⟨c, hc, hlevel⟩
    obtain ⟨a, ha, hmem⟩ := List.mem_flatMap.mp hc
    exact ⟨a, ha, c, hmem, hlevel⟩
  · rintro ⟨a, ha, c, hmem, hlevel⟩
    exact ⟨c, List.mem_flatMap.mpr ⟨a, ha, hmem⟩, hlevel⟩

/-- The subject of the evidence for a resource. -/
def Resource.subject : Resource → String
  | .cpuCores => "requirements.resources.cpu_cores_min"
  | .memoryMb => "requirements.resources.memory_mb_min"
  | .storageGb => "requirements.resources.storage_gb_min"
  | .gpuMemoryGb => "requirements.resources.gpu_memory_gb_min"

/-- The subject of the evidence for a requirement. -/
def Requirement.subject : Requirement → String
  | .capability id => "requirements.capabilities." ++ id
  | .resource kind _ => kind.subject
  | .gpu => "requirements.resources.gpu_required"
  | .architecture _ => "requirements.platform.architectures"
  | .operatingSystem _ => "requirements.platform.operating_systems"
  | .runtime value => "requirements.platform.runtimes" ++ "." ++ value
  | .device value => "requirements.platform.devices" ++ "." ++ value
  | .internet => "requirements.network.requires_internet"
  | .lan => "requirements.network.requires_lan"
  | .port p => "requirements.network.ports." ++ p.protocol ++ "." ++ toString p.port ++ "." ++
      p.direction
  | .relationship r => r.subject
  | .version r => r.subject ++ ".version"

/-- The type of the evidence for a requirement. -/
def Requirement.checkType : Requirement → CompatibilityCheckType
  | .capability _ => .capability
  | .resource _ _ | .gpu => .resource
  | .architecture _ | .operatingSystem _ | .runtime _ | .device _ => .platform
  | .internet | .lan | .port _ => .network
  | .relationship _ => .relationship
  | .version _ => .version

/-- Some check is about a requirement. -/
def Shown (checks : List Check) (q : Requirement) : Prop :=
  ∃ c ∈ checks, c.check_type = q.checkType ∧ c.subject = q.subject

section Represents

variable {repository : DiscoveryRepository} {other : DiscoveryRelationship → Decision}
  {context : CompatibilityContext}

/-- Some requirement is at a level. -/
def Demanded (repository : DiscoveryRepository) (other : DiscoveryRelationship → Decision)
    (context : CompatibilityContext) (level : Level) (requirements : List Requirement) : Prop :=
  ∃ q ∈ requirements, level.holds (q.decision repository other context)

/-- The checks say what the facts say of the requirements, and show each of them unless one is
open. -/
structure Represents (repository : DiscoveryRepository) (other : DiscoveryRelationship → Decision)
    (context : CompatibilityContext) (checks : List Check) (requirements : List Requirement) :
    Prop where
  raised : ∀ level, Raised level checks ↔ Demanded repository other context level requirements
  shown : ¬ Raised openLevel checks → ∀ q ∈ requirements, Shown checks q

theorem Represents.append {first second : List Check} {declared declared' : List Requirement}
    (h : Represents repository other context first declared)
    (h' : Represents repository other context second declared') :
    Represents repository other context (first ++ second) (declared ++ declared') := by
  constructor
  · intro level
    rw [raised_append, h.raised, h'.raised]
    simp [Demanded, or_and_right, exists_or]
  · intro hquiet q hq
    rw [raised_append, not_or] at hquiet
    rcases List.mem_append.mp hq with hq | hq
    · obtain ⟨c, hc, hsubject⟩ := h.shown hquiet.1 q hq
      exact ⟨c, List.mem_append_left _ hc, hsubject⟩
    · obtain ⟨c, hc, hsubject⟩ := h'.shown hquiet.2 q hq
      exact ⟨c, List.mem_append_right _ hc, hsubject⟩

theorem represents_nil : Represents repository other context [] [] :=
  ⟨by simp [Demanded], by simp⟩

/-- One check for one requirement. -/
theorem represents_singleton {c : Check} {q : Requirement}
    (hdecision : c.status.decision = q.decision repository other context)
    (htype : c.check_type = q.checkType) (hsubject : c.subject = q.subject) :
    Represents repository other context [c] [q] := by
  constructor
  · intro level
    simp [raised_singleton, Demanded, hdecision]
  · intro _ p hp
    rw [List.mem_singleton.mp hp]
    exact ⟨c, by simp, htype, hsubject⟩

/-- One check for each requirement of a list. -/
theorem represents_map {α : Type} {items : List α} {check : α → Check}
    {requirement : α → Requirement}
    (hdecision : ∀ a, (check a).status.decision =
      (requirement a).decision repository other context)
    (htype : ∀ a, (check a).check_type = (requirement a).checkType)
    (hsubject : ∀ a, (check a).subject = (requirement a).subject) :
    Represents repository other context (items.map check) (items.map requirement) := by
  induction items with
  | nil => exact represents_nil
  | cons a items ih =>
    exact (represents_singleton (hdecision a) (htype a) (hsubject a)).append ih

/-- A flag that asks for one check. -/
theorem represents_flag {flag : Bool} {c : Check} {q : Requirement}
    (hdecision : c.status.decision = q.decision repository other context)
    (htype : c.check_type = q.checkType) (hsubject : c.subject = q.subject) :
    Represents repository other context (if flag then [c] else []) (if flag then [q] else []) := by
  cases flag with
  | true => exact represents_singleton hdecision htype hsubject
  | false => exact represents_nil

theorem decision_capabilityCheck (observed : Option (List String)) (id : String) :
    (capabilityCheck observed id).status.decision = decideBy observed (id ∈ ·) := by
  cases observed with
  | none => rfl
  | some observed =>
    by_cases hid : id ∈ observed
    · simp only [capabilityCheck, if_pos hid, decideBy, decide_eq_true hid, if_true]
      rfl
    · simp only [capabilityCheck, if_neg hid, decideBy, decide_eq_false hid]
      rfl

theorem about_capabilityCheck (observed : Option (List String)) (id : String) :
    (capabilityCheck observed id).check_type = .capability ∧
      (capabilityCheck observed id).subject = "requirements.capabilities." ++ id := by
  cases observed with
  | none => exact ⟨rfl, rfl⟩
  | some observed =>
    simp only [capabilityCheck]
    split_ifs <;> exact ⟨rfl, rfl⟩

theorem represents_capabilities (item : DiscoveryItem) :
    Represents repository other context (evaluateCapabilities item context)
      (item.requirements.capabilities.map .capability) :=
  represents_map (fun id => decision_capabilityCheck context.capabilities id)
    (fun id => (about_capabilityCheck context.capabilities id).1)
    (fun id => (about_capabilityCheck context.capabilities id).2)

theorem represents_minimum {general : Amount → String} (requirements : ResourceRequirements)
    (kind : Resource) (fact_name unit : String) :
    Represents repository other context
      (evaluateMinimum general .resource kind.subject (kind.minimum requirements)
        (kind.observed context) fact_name unit)
      (minimumRequirement requirements kind) := by
  simp only [minimumRequirement, evaluateMinimum]
  cases kind.minimum requirements with
  | none => exact represents_nil
  | some amount =>
    cases hobserved : kind.observed context with
    | none =>
      refine represents_singleton ?_ rfl rfl
      rw [Requirement.decision, hobserved]
      rfl
    | some seen =>
      by_cases hle : amount ≤ seen
      · simp only [hle, if_true]
        refine represents_singleton ?_ rfl rfl
        simp only [Requirement.decision, hobserved, decideBy, decide_eq_true hle, if_true]
        rfl
      · simp only [hle, if_false]
        refine represents_singleton ?_ rfl rfl
        simp only [Requirement.decision, hobserved, decideBy, decide_eq_false hle]
        rfl

theorem represents_gpu (required : Bool) :
    Represents repository other context
      (if required then [gpuCheck context.gpu_available] else [])
      (if required then [.gpu] else []) := by
  refine represents_flag ?_ ?_ ?_
  · simp only [gpuCheck, Requirement.decision, decideBy]
    cases context.gpu_available with
    | none => rfl
    | some available => cases available <;> rfl
  · simp only [gpuCheck]
    split <;> rfl
  · simp only [gpuCheck]
    split <;> rfl

theorem represents_resources {general : Amount → String} (item : DiscoveryItem) :
    Represents repository other context (evaluateResources general item context)
      (minimumRequirement item.requirements.resources .cpuCores ++
        minimumRequirement item.requirements.resources .memoryMb ++
        minimumRequirement item.requirements.resources .storageGb ++
        (if item.requirements.resources.gpu_required then [.gpu] else []) ++
        minimumRequirement item.requirements.resources .gpuMemoryGb) := by
  have hminimum (kind : Resource) (fact_name unit : String) :
      Represents repository other context
        (evaluateMinimum general .resource kind.subject
          (kind.minimum item.requirements.resources) (kind.observed context) fact_name unit)
        (minimumRequirement item.requirements.resources kind) :=
    represents_minimum item.requirements.resources kind fact_name unit
  exact ((((hminimum .cpuCores _ _).append (hminimum .memoryMb _ _)).append
    (hminimum .storageGb _ _)).append (represents_gpu _)).append (hminimum .gpuMemoryGb _ _)

theorem represents_allowed {subject fact_name : String} {allowed : List String}
    {observed : Option String} {requirement : List String → Requirement}
    (hdecision : (requirement allowed).decision repository other context =
      decideBy observed (· ∈ allowed))
    (htype : (requirement allowed).checkType = .platform)
    (hsubject : (requirement allowed).subject = subject) :
    Represents repository other context (evaluateAllowedValues subject allowed observed fact_name)
      (allowedRequirement requirement allowed) := by
  simp only [evaluateAllowedValues, allowedRequirement]
  split_ifs with hempty
  · exact represents_nil
  cases observed with
  | none => exact represents_singleton hdecision.symm htype.symm hsubject.symm
  | some seen =>
    by_cases hmem : seen ∈ allowed
    · simp only [hmem, if_true]
      refine represents_singleton ?_ htype.symm hsubject.symm
      simp only [hdecision, decideBy, decide_eq_true hmem, if_true]
      rfl
    · simp only [hmem, if_false]
      refine represents_singleton ?_ htype.symm hsubject.symm
      simp only [hdecision, decideBy, decide_eq_false hmem]
      rfl

theorem represents_required_set {subject fact_name : String} {required : List String}
    {observed : Option (List String)} {requirement : String → Requirement}
    (hdecision : ∀ value, (requirement value).decision repository other context =
      decideBy observed (value ∈ ·))
    (htype : ∀ value, (requirement value).checkType = .platform)
    (hsubject : ∀ value, (requirement value).subject = subject ++ "." ++ value) :
    Represents repository other context (evaluateRequiredSet subject required observed fact_name)
      (required.map requirement) := by
  simp only [evaluateRequiredSet]
  split_ifs with hempty
  · subst hempty
    exact represents_nil
  cases observed with
  | none =>
    -- One check stands for the whole set, which is open as a whole.
    obtain ⟨value, hvalue⟩ := List.exists_mem_of_ne_nil required hempty
    constructor
    · intro level
      rw [raised_singleton]
      constructor
      · intro hlevel
        exact ⟨requirement value, List.mem_map_of_mem hvalue, by rwa [hdecision]⟩
      · rintro ⟨q, hq, hlevel⟩
        obtain ⟨other_value, -, rfl⟩ := List.mem_map.mp hq
        rwa [hdecision] at hlevel
    · intro hquiet
      exact absurd (raised_singleton.mpr (by simp [openLevel, unknownCheck,
        CompatibilityStatus.decision])) hquiet
  | some observed =>
    refine represents_map (fun value => ?_) (fun value => ?_) (fun value => ?_)
    · rw [hdecision]
      by_cases hmem : value ∈ observed
      · simp only [requiredValueCheck, if_pos hmem, decideBy, decide_eq_true hmem, if_true]
        rfl
      · simp only [requiredValueCheck, if_neg hmem, decideBy, decide_eq_false hmem]
        rfl
    · rw [htype]
      simp only [requiredValueCheck]
      split_ifs <;> rfl
    · rw [hsubject]
      simp only [requiredValueCheck]
      split_ifs <;> rfl

theorem represents_platform (item : DiscoveryItem) :
    Represents repository other context (evaluatePlatform item context)
      (allowedRequirement .architecture item.requirements.platform.architectures ++
        allowedRequirement .operatingSystem item.requirements.platform.operating_systems ++
        item.requirements.platform.runtimes.map .runtime ++
        item.requirements.platform.devices.map .device) := by
  refine ((Represents.append ?_ ?_).append ?_).append ?_
  · exact represents_allowed rfl rfl rfl
  · exact represents_allowed rfl rfl rfl
  · exact represents_required_set (fun _ => rfl) (fun _ => rfl) fun _ => rfl
  · exact represents_required_set (fun _ => rfl) (fun _ => rfl) fun _ => rfl

theorem decision_portCheck_required {port : PortRequirement} (h : port.required = true)
    (open_ports : Option (List ObservedPort)) :
    (portCheck open_ports port).status.decision =
      decideBy open_ports fun ports => ports.any (·.meets port) := by
  cases open_ports with
  | none =>
    simp only [portCheck, h, if_true]
    rfl
  | some ports =>
    cases hany : ports.any (·.meets port) with
    | true =>
      simp only [portCheck, hany, if_true, decideBy]
      rfl
    | false =>
      simp only [portCheck, hany, h, decideBy]
      rfl

theorem decision_portCheck_optional {port : PortRequirement} (h : port.required = false)
    (open_ports : Option (List ObservedPort)) :
    (portCheck open_ports port).status.decision = .met := by
  cases open_ports with
  | none =>
    simp only [portCheck, h]
    rfl
  | some ports =>
    cases hany : ports.any (·.meets port) with
    | true =>
      simp only [portCheck, hany, if_true]
      rfl
    | false =>
      simp only [portCheck, hany, h]
      rfl

theorem about_portCheck (open_ports : Option (List ObservedPort)) (port : PortRequirement) :
    (portCheck open_ports port).check_type = .network ∧
      (portCheck open_ports port).subject = (Requirement.port port).subject := by
  cases open_ports with
  | none =>
    simp only [portCheck]
    split_ifs <;> exact ⟨rfl, rfl⟩
  | some ports =>
    simp only [portCheck]
    split_ifs <;> exact ⟨rfl, rfl⟩

/-- A check that passes may come on top. -/
theorem Represents.cons_met {checks : List Check} {requirements : List Requirement} {c : Check}
    (h : Represents repository other context checks requirements)
    (hmet : c.status.decision = .met) :
    Represents repository other context (c :: checks) requirements := by
  constructor
  · intro level
    have hnot : ¬ level.holds c.status.decision := by
      rw [hmet]
      exact level.not_met
    rw [raised_cons, h.raised]
    exact or_iff_right hnot
  · intro hquiet q hq
    rw [raised_cons, not_or] at hquiet
    obtain ⟨found, hfound, hsubject⟩ := h.shown hquiet.2 q hq
    exact ⟨found, List.mem_cons_of_mem c hfound, hsubject⟩

theorem represents_ports (ports : List PortRequirement) :
    Represents repository other context (ports.map (portCheck context.open_ports))
      ((ports.filter (·.required)).map .port) := by
  induction ports with
  | nil => exact represents_nil
  | cons port ports ih =>
    have habout := about_portCheck context.open_ports port
    cases hrequired : port.required with
    | true =>
      rw [List.filter_cons_of_pos (by simpa using hrequired), List.map_cons, List.map_cons]
      exact (represents_singleton (decision_portCheck_required hrequired context.open_ports)
        habout.1 habout.2).append ih
    | false =>
      rw [List.filter_cons_of_neg (by simp [hrequired]), List.map_cons]
      exact ih.cons_met (decision_portCheck_optional hrequired context.open_ports)

theorem represents_network (item : DiscoveryItem) :
    Represents repository other context (evaluateNetwork item context)
      ((if item.requirements.network.requires_internet then [.internet] else []) ++
        (if item.requirements.network.requires_lan then [.lan] else []) ++
        (item.requirements.network.ports.filter (·.required)).map .port) :=
  ((represents_flag rfl rfl rfl).append (represents_flag rfl rfl rfl)).append (represents_ports _)

theorem evaluateCatalogStatus_eq (item : DiscoveryItem) :
    ∃ c, evaluateCatalogStatus item = [c] ∧ c.status.decision = .met := by
  simp only [evaluateCatalogStatus]
  split_ifs
  · exact ⟨_, rfl, rfl⟩
  · exact ⟨_, rfl, rfl⟩

/-- The checks beside those of the relationships. -/
def declaredChecks (general : Amount → String) (item : DiscoveryItem)
    (context : CompatibilityContext) : List Check :=
  evaluateCatalogStatus item ++ evaluateCapabilities item context ++
    evaluateResources general item context ++ evaluatePlatform item context ++
    evaluateNetwork item context

/-- They say what the facts say of what the item declares. -/
theorem represents_declared (general : Amount → String) (item : DiscoveryItem) :
    Represents repository other context (declaredChecks general item context) item.declared := by
  refine ((Represents.append ?_ (represents_resources item)).append
    (represents_platform item)).append (represents_network item)
  obtain ⟨c, hcatalog, hmet⟩ := evaluateCatalogStatus_eq item
  rw [hcatalog]
  exact (represents_capabilities item).cons_met hmet

/-! ## Relationships -/

/-- There is one check of version bounds, and it says what the version says. -/
theorem evaluateVersionBounds_eq {r : DiscoveryRelationship} (target : DiscoveryItem)
    (service : ObservedService) (hbounds : r.minimum_version.isSome || r.maximum_version.isSome) :
    ∃ c, evaluateVersionBounds r target service = [c] ∧
      c.status.decision = versionDecision r service ∧ c.check_type = .version ∧
      c.subject = r.subject ++ ".version" := by
  have hsome : ¬ (r.minimum_version = none ∧ r.maximum_version = none) := by
    rintro ⟨hminimum, hmaximum⟩
    simp [hminimum, hmaximum] at hbounds
  simp only [evaluateVersionBounds, if_neg hsome, versionDecision]
  cases installedVersionKey service with
  | none => exact ⟨_, rfl, rfl, rfl, rfl⟩
  | some key =>
    have hunread : ((r.minimum_version ≠ none ∧ parseStrictNumericVersion r.minimum_version = none) ∨
        (r.maximum_version ≠ none ∧ parseStrictNumericVersion r.maximum_version = none)) ↔
        (r.minimum_version.isSome && (parseStrictNumericVersion r.minimum_version).isNone ||
          r.maximum_version.isSome && (parseStrictNumericVersion r.maximum_version).isNone) =
            true := by
      simp [Option.isSome_iff_ne_none]
    by_cases hopen : (r.minimum_version ≠ none ∧
        parseStrictNumericVersion r.minimum_version = none) ∨
        (r.maximum_version ≠ none ∧ parseStrictNumericVersion r.maximum_version = none)
    · simp only [if_pos hopen, if_pos (hunread.mp hopen)]
      exact ⟨_, rfl, rfl, rfl, rfl⟩
    · simp only [if_neg hopen, if_neg (hunread.not.mp hopen)]
      cases hlow : (parseStrictNumericVersion r.minimum_version).any (key < ·) with
      | true => exact ⟨_, rfl, rfl, rfl, rfl⟩
      | false =>
        cases hhigh : (parseStrictNumericVersion r.maximum_version).any (· < key) with
        | true => exact ⟨_, rfl, rfl, rfl, rfl⟩
        | false => exact ⟨_, rfl, rfl, rfl, rfl⟩

theorem evaluateVersionBounds_nil {r : DiscoveryRelationship} (target : DiscoveryItem)
    (service : ObservedService)
    (hbounds : (r.minimum_version.isSome || r.maximum_version.isSome) = false) :
    evaluateVersionBounds r target service = [] := by
  rw [Bool.or_eq_false_iff, Option.isSome_eq_false_iff, Option.isSome_eq_false_iff,
    Option.isNone_iff_eq_none, Option.isNone_iff_eq_none] at hbounds
  simp [evaluateVersionBounds, hbounds]

/-- A required relationship whose target is in the catalog, of a type that no check handles. -/
def DiscoveryRelationship.ignored (repository : DiscoveryRepository) (r : DiscoveryRelationship) :
    Bool :=
  r.required && (repository r.target).isSome && !r.type.handled

/-- The first observation of the target of a bounded relationship is at a level. -/
def VersionRaised (repository : DiscoveryRepository) (context : CompatibilityContext)
    (level : Level) (r : DiscoveryRelationship) : Prop :=
  ∃ target service, repository r.target = some target ∧ r.bounded = true ∧
    firstWith ObservedService.id target.id context.services = some service ∧
    level.holds (versionDecision r service)

theorem servicePresent_eq_isSome (id : String) (services : List ObservedService) :
    servicePresent id services = (serviceNamed id services).isSome := by
  rw [servicePresent, serviceNamed, firstWith, List.isSome_find?]

/-- What the checks of one relationship say. -/
structure Tells (repository : DiscoveryRepository) (other : DiscoveryRelationship → Decision)
    (context : CompatibilityContext) (r : DiscoveryRelationship) (checks : List Check) : Prop where
  raised : ∀ level, Raised level checks ↔
    (r.required = true ∧ r.ignored repository = false ∧
      level.holds (relationshipDecision repository other context r)) ∨
      VersionRaised repository context level r
  shown : ¬ Raised openLevel checks → r.required = true → r.ignored repository = false →
    Shown checks (.relationship r)
  versioned : ¬ Raised openLevel checks → r.bounded = true → Shown checks (.version r)
  silent : r.ignored repository = true → checks = []

/-- One check, where no version is looked at. -/
theorem tells_singleton {r : DiscoveryRelationship} {c : Check}
    (hrequired : r.required = true) (hseen : r.ignored repository = false)
    (hdecision : c.status.decision = relationshipDecision repository other context r)
    (hsubject : c.check_type = .relationship ∧ c.subject = r.subject)
    (hunversioned : ∀ level, ¬ VersionRaised repository context level r)
    (hopen : r.bounded = true → c.status.decision ≠ .met) :
    Tells repository other context r [c] where
  raised := by
    intro level
    simp [raised_singleton, hrequired, hseen, hdecision, hunversioned level]
  shown := fun _ _ _ => ⟨c, by simp, hsubject⟩
  versioned := fun hquiet hbounded => absurd (raised_singleton.mpr (hopen hbounded)) hquiet
  silent := by simp [hseen]

theorem not_versionRaised_of_unbounded {r : DiscoveryRelationship} (h : r.bounded = false) :
    ¬ VersionRaised repository context level r := by
  rintro ⟨target, service, -, hbounded, -⟩
  rw [h] at hbounded
  cases hbounded

/-- One check of an optional relationship, which passes. -/
theorem tells_optional {r : DiscoveryRelationship} {c : Check} (hrequired : r.required = false)
    (hmet : c.status.decision = .met) : Tells repository other context r [c] := by
  have hbounded : r.bounded = false := by simp [DiscoveryRelationship.bounded, hrequired]
  have hseen : r.ignored repository = false := by simp [DiscoveryRelationship.ignored, hrequired]
  constructor
  · intro level
    simp [raised_singleton, hrequired, hmet, level.not_met,
      not_versionRaised_of_unbounded hbounded]
  · simp [hrequired]
  · simp [hbounded]
  · simp [hseen]

/-- A check of the target that passes, with the check of its version. -/
theorem tells_versioned {r : DiscoveryRelationship} {target : DiscoveryItem}
    {service : ObservedService} {c : Check} (hrequired : r.required = true)
    (htarget : repository r.target = some target) (hasks : r.type.asksPresence = true)
    (hservice : firstWith ObservedService.id target.id context.services = some service)
    (hmet : c.status.decision = .met) (htype : c.check_type = .relationship)
    (hsubject : c.subject = r.subject)
    (hdecision : relationshipDecision repository other context r = .met) :
    Tells repository other context r (c :: evaluateVersionBounds r target service) := by
  have hseen : r.ignored repository = false := by
    simp [DiscoveryRelationship.ignored, DiscoveryRelationshipType.handled, hasks]
  have hversion : ∀ level, VersionRaised repository context level r ↔
      r.bounded = true ∧ level.holds (versionDecision r service) := by
    intro level
    constructor
    · rintro ⟨target', service', htarget', hbounded, hservice', hlevel⟩
      rw [htarget] at htarget'
      cases htarget'
      rw [hservice] at hservice'
      cases hservice'
      exact ⟨hbounded, hlevel⟩
    · rintro ⟨hbounded, hlevel⟩
      exact ⟨target, service, htarget, hbounded, hservice, hlevel⟩
  have hbounded : r.bounded = (r.minimum_version.isSome || r.maximum_version.isSome) := by
    simp [DiscoveryRelationship.bounded, hrequired, hasks]
  constructor
  · intro level
    rw [raised_cons, hmet, hdecision, hversion, hbounded]
    cases hbounds : r.minimum_version.isSome || r.maximum_version.isSome with
    | true =>
      obtain ⟨v, hv, hvdecision, -⟩ := evaluateVersionBounds_eq target service hbounds
      simp [hv, raised_singleton, hvdecision, level.not_met]
    | false => simp [evaluateVersionBounds_nil target service hbounds, level.not_met]
  · intro _ _ _
    exact ⟨c, by simp, htype, hsubject⟩
  · intro _ hb
    rw [hbounded] at hb
    obtain ⟨v, hv, -, hvtype, hvsubject⟩ := evaluateVersionBounds_eq target service hb
    exact ⟨v, by simp [hv], hvtype, hvsubject⟩
  · simp [hseen]

theorem tells_relationship (r : DiscoveryRelationship) :
    Tells repository other context r (evaluateRelationship context repository r) := by
  simp only [evaluateRelationship]
  cases hrequired : r.required with
  | false =>
    cases repository r.target with
    | none => exact tells_optional hrequired rfl
    | some target => exact tells_optional hrequired rfl
  | true =>
    cases htarget : repository r.target with
    | none =>
      refine tells_singleton hrequired (by simp [DiscoveryRelationship.ignored, htarget]) ?_
        ⟨rfl, rfl⟩ ?_ ?_
      · simp only [relationshipDecision, htarget]
        rfl
      · rintro level ⟨target, service, hsome, -⟩
        rw [htarget] at hsome
        cases hsome
      · exact fun _ => by simp [unknownCheck, CompatibilityStatus.decision]
    | some target =>
      simp only [Bool.not_true, Bool.false_eq_true, if_false]
      by_cases hasks : r.type.asksPresence = true
      · have hseen : r.ignored repository = false := by
          simp [DiscoveryRelationship.ignored, DiscoveryRelationshipType.handled, hasks]
        rw [if_pos hasks]
        cases hservices : context.installed_services with
        | none =>
          refine tells_singleton hrequired hseen ?_ ⟨rfl, rfl⟩ ?_ ?_
          · simp only [relationshipDecision, htarget, hasks, if_true, hservices]
            rfl
          · rintro level ⟨target', service, -, -, hfirst, -⟩
            simp [CompatibilityContext.services, hservices, firstWith] at hfirst
          · exact fun _ => by simp [unknownCheck, CompatibilityStatus.decision]
        | some services =>
          have hall : context.services = services := by
            simp [CompatibilityContext.services, hservices]
          simp only
          cases hnamed : serviceNamed target.id services with
          | none =>
            refine tells_singleton hrequired hseen ?_ ⟨rfl, rfl⟩ ?_ ?_
            · simp only [relationshipDecision, htarget, hasks, if_true, hservices, decideBy,
                servicePresent_eq_isSome, hnamed]
              rfl
            · rintro level ⟨target', service, htarget', -, hfirst, -⟩
              rw [htarget] at htarget'
              cases htarget'
              rw [hall] at hfirst
              rw [serviceNamed, hfirst] at hnamed
              cases hnamed
            · exact fun _ => by simp [incompatibleCheck, CompatibilityStatus.decision]
          | some service =>
            refine tells_versioned hrequired htarget hasks (by rw [hall]; exact hnamed) rfl rfl
              rfl ?_
            simp [relationshipDecision, htarget, hasks, hservices, decideBy,
              servicePresent_eq_isSome, hnamed]
      · have hbounded : r.bounded = false := by simp [DiscoveryRelationship.bounded, hasks]
        have hunversioned : ∀ level, ¬ VersionRaised repository context level r :=
          fun level => not_versionRaised_of_unbounded hbounded
        rw [if_neg hasks]
        by_cases hconflicts : r.type = .conflictsWith
        · have hseen : r.ignored repository = false := by
            simp [DiscoveryRelationship.ignored, DiscoveryRelationshipType.handled, hconflicts]
          rw [if_pos hconflicts]
          cases hservices : context.installed_services with
          | none =>
            refine tells_singleton hrequired hseen ?_ ⟨rfl, rfl⟩ hunversioned ?_
            · simp only [relationshipDecision, htarget, if_neg hasks, if_pos hconflicts,
                hservices]
              rfl
            · simp [hbounded]
          | some services =>
            simp only
            cases hpresent : servicePresent target.id services with
            | true =>
              simp only [if_true]
              refine tells_singleton hrequired hseen ?_ ⟨rfl, rfl⟩ hunversioned ?_
              · simp only [relationshipDecision, htarget, if_neg hasks, if_pos hconflicts,
                  hservices, decideBy, hpresent]
                rfl
              · simp [hbounded]
            | false =>
              simp only [Bool.false_eq_true, if_false]
              refine tells_singleton hrequired hseen ?_ ⟨rfl, rfl⟩ hunversioned ?_
              · simp only [relationshipDecision, htarget, if_neg hasks, if_pos hconflicts,
                  hservices, decideBy, hpresent]
                rfl
              · simp [hbounded]
        · -- No check handles the type.
          have hseen : r.ignored repository = true := by
            simp [DiscoveryRelationship.ignored, DiscoveryRelationshipType.handled, hrequired,
              htarget, hasks, hconflicts]
          rw [if_neg hconflicts]
          constructor
          · intro level
            simp [hseen, hunversioned level]
          · simp [hseen]
          · simp [hbounded]
          · simp

end Represents

end AtlasOS.Discovery
