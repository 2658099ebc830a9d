import CfwRs.Lib.Checked

namespace CfwRs.MacProxy

open Lib.Checked

inductive SystemProxyField
  | httpEnabled | httpHost | httpPort
  | httpsEnabled | httpsHost | httpsPort
  | socksEnabled | socksHost | socksPort
  | proxyAutoConfigEnabled | proxyAutoDiscoveryEnabled
deriving DecidableEq, Repr

namespace SystemProxyField

def rawValue : SystemProxyField → String
  | httpEnabled => "HTTPEnable"
  | httpHost => "HTTPProxy"
  | httpPort => "HTTPPort"
  | httpsEnabled => "HTTPSEnable"
  | httpsHost => "HTTPSProxy"
  | httpsPort => "HTTPSPort"
  | socksEnabled => "SOCKSEnable"
  | socksHost => "SOCKSProxy"
  | socksPort => "SOCKSPort"
  | proxyAutoConfigEnabled => "ProxyAutoConfigEnable"
  | proxyAutoDiscoveryEnabled => "ProxyAutoDiscoveryEnable"

def allCases : List SystemProxyField :=
  [httpEnabled, httpHost, httpPort, httpsEnabled, httpsHost, httpsPort, socksEnabled, socksHost,
    socksPort, proxyAutoConfigEnabled, proxyAutoDiscoveryEnabled]

def isEnableFlag : SystemProxyField → Bool
  | httpEnabled | httpsEnabled | socksEnabled | proxyAutoConfigEnabled
  | proxyAutoDiscoveryEnabled => true
  | _ => false

theorem rawValue_injective : Function.Injective rawValue := by
  intro a b h
  cases a <;> cases b <;> first | rfl | exact absurd h (by decide)

@[simp] theorem rawValue_inj {a b : SystemProxyField} : a.rawValue = b.rawValue ↔ a = b :=
  rawValue_injective.eq_iff

theorem mem_allCases (f : SystemProxyField) : f ∈ allCases := by
  cases f <;> decide

end SystemProxyField

inductive ProxyPreferenceValue
  | boolean (value : Bool)
  | integer (value : ℤ)
  | string (value : String)
deriving DecidableEq, Repr

def SystemProxyField.acceptsOriginalValue (field : SystemProxyField) :
    Option ProxyPreferenceValue → Bool
  | none => true
  | some (.boolean _) => field.isEnableFlag
  | some (.integer n) =>
    match field with
    | .httpEnabled | .httpsEnabled | .socksEnabled | .proxyAutoConfigEnabled
    | .proxyAutoDiscoveryEnabled => n = 0 || n = 1
    | .httpPort | .httpsPort | .socksPort => true
    | .httpHost | .httpsHost | .socksHost => false
  | some (.string _) =>
    match field with
    | .httpHost | .httpsHost | .socksHost => true
    | _ => false

structure OwnedSystemProxyField where
  field : SystemProxyField
  originalValue : Option ProxyPreferenceValue
  appliedValue : ProxyPreferenceValue
deriving DecidableEq, Repr

structure SystemProxyServiceOwnership where
  serviceID : String
  fields : List OwnedSystemProxyField
deriving DecidableEq, Repr

inductive ProxyOwnershipJournalError
  | invalidJournal
deriving DecidableEq, Repr

def SystemProxyServiceOwnership.make (serviceID : String) (fields : List OwnedSystemProxyField) :
    Except ProxyOwnershipJournalError SystemProxyServiceOwnership := do
  require (serviceID ≠ "" ∧ fields ≠ []) .invalidJournal
  require ((fields.map (·.field)).Nodup ∧
    (∀ field ∈ SystemProxyField.allCases, field ∈ fields.map (·.field)) ∧
    fields.all (fun owned ↦ owned.field.acceptsOriginalValue owned.originalValue) = true)
    .invalidJournal
  .ok ⟨serviceID, fields.mergeSort fun a b ↦ decide (a.field.rawValue ≤ b.field.rawValue)⟩

inductive ProxyOwnershipJournalPhase
  | prepared | applied
deriving DecidableEq, Repr

inductive ConfigurationSlot
  | localProxy | systemProxy | tunnel
deriving DecidableEq, Repr

/-- The fields of a descriptor other than its slot only count when descriptors are compared:
`remainder` stands for them. -/
structure ConfigurationDescriptor where
  slot : ConfigurationSlot
  remainder : String
deriving DecidableEq, Repr

structure ProxyOwnershipJournal where
  phase : ProxyOwnershipJournalPhase
  configuration : ConfigurationDescriptor
  services : List SystemProxyServiceOwnership
deriving DecidableEq, Repr

def SystemProxyServiceOwnership.applied (service : SystemProxyServiceOwnership)
    (field : SystemProxyField) : Option ProxyPreferenceValue :=
  (service.fields.find? (·.field = field)).map (·.appliedValue)

def SystemProxyServiceOwnership.endpoint (service : SystemProxyServiceOwnership) :
    Except ProxyOwnershipJournalError (String × ℤ) := do
  require (service.applied .httpEnabled = some (.integer 1) ∧
    service.applied .httpsEnabled = some (.integer 1) ∧
    service.applied .socksEnabled = some (.integer 1) ∧
    service.applied .proxyAutoConfigEnabled = some (.integer 0) ∧
    service.applied .proxyAutoDiscoveryEnabled = some (.integer 0)) .invalidJournal
  match service.applied .httpHost, service.applied .httpPort with
  | some (.string host), some (.integer port) => do
    require (host = "127.0.0.1" ∧ service.applied .httpsHost = some (.string host) ∧
      service.applied .socksHost = some (.string host) ∧ 1 ≤ port ∧ port ≤ 65535 ∧
      service.applied .httpsPort = some (.integer port) ∧
      service.applied .socksPort = some (.integer port)) .invalidJournal
    .ok (host, port)
  | _, _ => .error .invalidJournal

def checkEndpoints : Option (String × ℤ) → List SystemProxyServiceOwnership →
    Except ProxyOwnershipJournalError Unit
  | _, [] => .ok ()
  | expected, service :: services => do
    let endpoint ← service.endpoint
    require (expected = none ∨ expected = some endpoint) .invalidJournal
    checkEndpoints (some endpoint) services

def ProxyOwnershipJournal.make (phase : ProxyOwnershipJournalPhase)
    (configuration : ConfigurationDescriptor) (services : List SystemProxyServiceOwnership) :
    Except ProxyOwnershipJournalError ProxyOwnershipJournal := do
  require (configuration.slot = .systemProxy ∧ services ≠ []) .invalidJournal
  let validated ← services.mapM fun service ↦
    SystemProxyServiceOwnership.make service.serviceID service.fields
  require (validated.map (·.serviceID)).Nodup .invalidJournal
  checkEndpoints none validated
  .ok ⟨phase, configuration,
    validated.mergeSort fun a b ↦ decide (a.serviceID ≤ b.serviceID)⟩

def ProxyOwnershipJournal.markingApplied (journal : ProxyOwnershipJournal) :
    Except ProxyOwnershipJournalError ProxyOwnershipJournal :=
  ProxyOwnershipJournal.make .applied journal.configuration journal.services

structure SystemProxyServiceOwnership.Valid (service : SystemProxyServiceOwnership) : Prop where
  nodup : (service.fields.map (·.field)).Nodup
  complete : ∀ field, field ∈ service.fields.map (·.field)
  accepted : ∀ owned ∈ service.fields, owned.field.acceptsOriginalValue owned.originalValue = true

structure ProxyOwnershipJournal.Valid (journal : ProxyOwnershipJournal) : Prop where
  services : ∀ service ∈ journal.services, service.Valid
  nodup : (journal.services.map (·.serviceID)).Nodup

theorem SystemProxyServiceOwnership.valid_of_make {serviceID fields service}
    (h : SystemProxyServiceOwnership.make serviceID fields = .ok service) : service.Valid := by
  simp only [SystemProxyServiceOwnership.make, ok_iff] at h
  obtain ⟨_, -, _, ⟨hnodup, hcomplete, haccepted⟩, hservice⟩ := h
  cases hservice
  have hperm := List.mergeSort_perm fields fun a b ↦ decide (a.field.rawValue ≤ b.field.rawValue)
  refine ⟨((hperm.map _).nodup_iff).mpr hnodup, fun field ↦ ?_, fun owned hmem ↦ ?_⟩
  · exact (hperm.map _).mem_iff.mpr (hcomplete field (SystemProxyField.mem_allCases field))
  · exact List.all_eq_true.mp haccepted owned (hperm.mem_iff.mp hmem)

theorem valid_of_mapM {services validated : List SystemProxyServiceOwnership}
    (h : services.mapM (fun service ↦
      SystemProxyServiceOwnership.make service.serviceID service.fields) = .ok validated) :
    ∀ service ∈ validated, service.Valid := by
  induction services generalizing validated with
  | nil =>
    cases h
    simp
  | cons service services ih =>
    simp only [List.mapM_cons, ok_iff] at h
    obtain ⟨head, hhead, rest, hrest, rfl⟩ := h
    intro s hs
    rcases List.mem_cons.mp hs with rfl | hs
    · exact SystemProxyServiceOwnership.valid_of_make hhead
    · exact ih hrest s hs

theorem ProxyOwnershipJournal.valid_of_make {phase configuration services journal}
    (h : ProxyOwnershipJournal.make phase configuration services = .ok journal) :
    journal.Valid := by
  simp only [ProxyOwnershipJournal.make, ok_iff] at h
  obtain ⟨_, -, validated, hvalidated, _, hnodup, _, -, hjournal⟩ := h
  cases hjournal
  have hperm := List.mergeSort_perm validated fun a b ↦ decide (a.serviceID ≤ b.serviceID)
  exact ⟨fun service hs ↦ valid_of_mapM hvalidated service (hperm.mem_iff.mp hs),
    ((hperm.map _).nodup_iff).mpr hnodup⟩

end CfwRs.MacProxy
