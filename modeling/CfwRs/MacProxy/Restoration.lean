import CfwRs.Lib.Action
import CfwRs.MacProxy.Ownership

namespace CfwRs.MacProxy

open Lib Lib.Checked

/-- A Foundation value as the preferences hold it. Of a number that is no boolean only the two
readings that are taken matter. -/
inductive Preference
  | string (value : String)
  | boolean (value : Bool)
  | number (intValue : ℤ) (boolValue : Bool)
  | other
deriving DecidableEq, Repr

abbrev Configuration := String → Option Preference

inductive SystemProxyPreferencesError
  | authorizationDenied (status : ℤ)
  | authorizationRequestFailed (status : ℤ)
  | authorizationUnavailable (status : ℤ)
  | preferencesUnavailable
  | preferencesLockFailed (code : ℤ)
  | preferencesUnlockFailed (code : ℤ) (originalError : Option String)
  | currentNetworkSetUnavailable
  | serviceMissing (serviceID : String)
  | proxyProtocolMissing (serviceID : String)
  | unsupportedValue (serviceID : String) (field : SystemProxyField)
  | setConfigurationFailed (serviceID : String) (code : ℤ)
  | commitFailed (code : ℤ)
  | applyFailed (code : ℤ)
  | verificationFailed (serviceID : String) (field : SystemProxyField)
  | effectiveProxyStateUnavailable
  | effectiveVerificationFailed (field : SystemProxyField)
deriving DecidableEq, Repr

section Values

def value (preference : Option Preference) (serviceID : String) (field : SystemProxyField) :
    Except SystemProxyPreferencesError (Option ProxyPreferenceValue) :=
  match preference with
  | none => .ok none
  | some (.string s) => .ok (some (.string s))
  | some (.boolean b) =>
    .ok (some (if field.isEnableFlag then .integer (if b then 1 else 0) else .boolean b))
  | some (.number n b) =>
    .ok (some (.integer (if field.isEnableFlag then (if b then 1 else 0) else n)))
  | some .other => .error (.unsupportedValue serviceID field)

def foundationValue : ProxyPreferenceValue → Preference
  | .boolean b => .boolean b
  | .integer n => .number n (n ≠ 0)
  | .string s => .string s

def isEffectivelyEnabled : Option ProxyPreferenceValue → Bool
  | some (.boolean enabled) => enabled
  | some (.integer enabled) => enabled ≠ 0
  | none | some (.string _) => false

def controllingEnableField : SystemProxyField → Option SystemProxyField
  | .httpHost | .httpPort => some .httpEnabled
  | .httpsHost | .httpsPort => some .httpsEnabled
  | .socksHost | .socksPort => some .socksEnabled
  | _ => none

def appliedValues (host : String) (port : ℤ) : SystemProxyField → ProxyPreferenceValue
  | .httpEnabled | .httpsEnabled | .socksEnabled => .integer 1
  | .httpHost | .httpsHost | .socksHost => .string host
  | .httpPort | .httpsPort | .socksPort => .integer port
  | .proxyAutoConfigEnabled | .proxyAutoDiscoveryEnabled => .integer 0

def setValue (original : Option ProxyPreferenceValue) (field : SystemProxyField)
    (configuration : Configuration) : Configuration :=
  Function.update configuration field.rawValue (original.map foundationValue)

end Values

inductive ProxyOwnershipConflictReason
  | serviceMissing
  | proxyProtocolMissing
  | valueChanged (current : Option ProxyPreferenceValue)
deriving DecidableEq, Repr

structure ProxyOwnershipConflict where
  serviceID : String
  field : SystemProxyField
  reason : ProxyOwnershipConflictReason
deriving DecidableEq, Repr

structure ProxyRestoreResult where
  conflicts : List ProxyOwnershipConflict
  preservedExternalChanges : List ProxyOwnershipConflict

def ProxyRestoreResult.isComplete (result : ProxyRestoreResult) : Bool := result.conflicts.isEmpty

/-- The enable and port fields of the protocol a field belongs to. -/
def protocolFields : SystemProxyField → Option (SystemProxyField × SystemProxyField)
  | .httpEnabled | .httpHost | .httpPort => some (.httpEnabled, .httpPort)
  | .httpsEnabled | .httpsHost | .httpsPort => some (.httpsEnabled, .httpsPort)
  | .socksEnabled | .socksHost | .socksPort => some (.socksEnabled, .socksPort)
  | .proxyAutoConfigEnabled | .proxyAutoDiscoveryEnabled => none

def isReleasedProxyGroup (field : SystemProxyField) (service : SystemProxyServiceOwnership)
    (configuration : Configuration) : Except SystemProxyPreferencesError Bool :=
  match protocolFields field with
  | none => .ok false
  | some (enableField, portField) => do
    let enabled ← value (configuration enableField.rawValue) service.serviceID enableField
    if isEffectivelyEnabled enabled then do
      let currentPort ← value (configuration portField.rawValue) service.serviceID portField
      match currentPort, service.fields.find? (·.field = portField) with
      | some (.integer port), some owned =>
        .ok (decide (1 ≤ port ∧ port ≤ 65535) && decide (currentPort ≠ some owned.appliedValue))
      | _, _ => .ok false
    else .ok true

structure Observation where
  ownership : OwnedSystemProxyField
  current : Option ProxyPreferenceValue
  original : Option ProxyPreferenceValue
deriving DecidableEq, Repr

structure ServiceRestoration where
  configuration : Configuration
  restoredFields : List OwnedSystemProxyField
  conflicts : List ProxyOwnershipConflict
  changed : Bool

def observe (serviceID : String) (configuration : Configuration) (owned : OwnedSystemProxyField) :
    Except SystemProxyPreferencesError Observation := do
  let current ← value (configuration owned.field.rawValue) serviceID owned.field
  require (owned.field.acceptsOriginalValue current = true)
    (.unsupportedValue serviceID owned.field)
  let original ← value (owned.originalValue.map foundationValue) serviceID owned.field
  .ok ⟨owned, current, original⟩

/-- What a service has stored for the protocol of one enable flag. -/
def protocolGroup (enableField : SystemProxyField) (observations : List Observation) :
    List Observation :=
  observations.filter fun o ↦ o.ownership.field = enableField ∨
    controllingEnableField o.ownership.field = some enableField

def restoreGroup (serviceID : String) (observations : List Observation) (r : ServiceRestoration)
    (enableField : SystemProxyField) : ServiceRestoration :=
  let group := protocolGroup enableField observations
  if group.all (fun o ↦ o.current = o.original) then
    { r with restoredFields := r.restoredFields ++ group.map (·.ownership) }
  else if group.all (fun o ↦ o.current = some o.ownership.appliedValue) then
    { r with
      configuration := group.foldl
        (fun c o ↦ setValue o.ownership.originalValue o.ownership.field c) r.configuration
      restoredFields := r.restoredFields ++ group.map (·.ownership)
      changed := true }
  else
    { r with
      conflicts := r.conflicts ++
        (group.filter (fun o ↦ o.current ≠ some o.ownership.appliedValue)).map
          fun o ↦ ⟨serviceID, o.ownership.field, .valueChanged o.current⟩ }

def enableFlags : List SystemProxyField := SystemProxyField.allCases.filter (·.isEnableFlag)

def restoration (service : SystemProxyServiceOwnership) (configuration : Configuration) :
    Except SystemProxyPreferencesError ServiceRestoration := do
  let observations ← service.fields.mapM (observe service.serviceID configuration)
  .ok (enableFlags.foldl (restoreGroup service.serviceID observations)
    ⟨configuration, [], [], false⟩)

/-- The network services of the current set. One without a proxy protocol has `none`. -/
structure Preferences where
  services : String → Option (Option Configuration)
  /-- How often changes were committed. -/
  commits : ℕ

structure Environment where
  openPreferences : Except SystemProxyPreferencesError Unit
  verifyLock : Except SystemProxyPreferencesError Unit
  verifyCommit : Except SystemProxyPreferencesError Unit
  verifyApply : Except SystemProxyPreferencesError Unit
  locks : Bool
  unlocks : Bool
  networkSet : Bool
  setsConfiguration : String → Bool
  commits : Bool
  applies : Bool
  primaryServiceID : Option String
  /-- The effective settings, by the number of earlier observations. -/
  effectiveProxies : ℕ → Option Configuration
  /-- How often the effective settings are read until the deadline has passed. -/
  polls : ℕ
  errorCode : ℤ
  describing : SystemProxyPreferencesError → String

section Effective

/-- The first field of those still to compare that is not in effect as expected. -/
def findMismatch (effective : Configuration)
    (expected : List (SystemProxyField × Option ProxyPreferenceValue)) :
    List (SystemProxyField × Option ProxyPreferenceValue) →
      Except SystemProxyPreferencesError (Option SystemProxyField)
  | [] => .ok none
  | (field, expectedValue) :: rest =>
    if (controllingEnableField field).any
        (fun flag ↦ !isEffectivelyEnabled ((expected.lookup flag).getD none)) then
      findMismatch effective expected rest
    else do
      let actual ← value (effective field.rawValue) "effective-primary-service" field
      if (if field.isEnableFlag then
          isEffectivelyEnabled actual = isEffectivelyEnabled expectedValue
        else actual = expectedValue)
      then findMismatch effective expected rest
      else .ok (some field)

def firstEffectiveMismatch (effective : Option Configuration)
    (expected : List (SystemProxyField × Option ProxyPreferenceValue)) :
    Except SystemProxyPreferencesError (Option SystemProxyField) := do
  let effective ← unwrap effective .effectiveProxyStateUnavailable
  findMismatch effective expected expected

/-- Reads until the settings are in effect or the deadline has passed. -/
def verifyEffectiveValues (effective : ℕ → Option Configuration)
    (expected : List (SystemProxyField × Option ProxyPreferenceValue)) : (polls asked : ℕ) →
      Except SystemProxyPreferencesError Unit
  | polls, asked => do
    let mismatch ← firstEffectiveMismatch (effective asked) expected
    match mismatch, polls with
    | none, _ => .ok ()
    | some field, 0 => .error (.effectiveVerificationFailed field)
    | some _, polls + 1 => verifyEffectiveValues effective expected polls (asked + 1)

def restoredValues (env : Environment) (journal : ProxyOwnershipJournal) :
    Except SystemProxyPreferencesError (List (SystemProxyField × Option ProxyPreferenceValue)) := do
  let primary ← unwrap env.primaryServiceID .effectiveProxyStateUnavailable
  let service ← unwrap (journal.services.find? (·.serviceID = primary))
    .effectiveProxyStateUnavailable
  .ok (service.fields.map fun owned ↦ (owned.field, owned.originalValue))

end Effective

section Restore

/-- What the loop of `restore` over the journalled services has gathered. -/
structure Plan where
  services : String → Option (Option Configuration)
  conflicts : List ProxyOwnershipConflict
  restoredFields : List (String × OwnedSystemProxyField)
  changed : Bool

def missing (service : SystemProxyServiceOwnership) (reason : ProxyOwnershipConflictReason) :
    List ProxyOwnershipConflict :=
  service.fields.map fun owned ↦ ⟨service.serviceID, owned.field, reason⟩

variable (env : Environment)

def planService (records : String → Option (Option Configuration)) (plan : Plan)
    (service : SystemProxyServiceOwnership) : Except SystemProxyPreferencesError Plan :=
  match records service.serviceID with
  | none => .ok { plan with conflicts := plan.conflicts ++ missing service .serviceMissing }
  | some none =>
    .ok { plan with conflicts := plan.conflicts ++ missing service .proxyProtocolMissing }
  | some (some configuration) => do
    let r ← restoration service configuration
    require (r.changed = true → env.setsConfiguration service.serviceID = true)
      (.setConfigurationFailed service.serviceID env.errorCode)
    .ok {
      services := if r.changed then
        Function.update plan.services service.serviceID (some (some r.configuration))
        else plan.services
      conflicts := plan.conflicts ++ r.conflicts
      restoredFields := plan.restoredFields ++ r.restoredFields.map (service.serviceID, ·)
      changed := plan.changed || r.changed }

variable (journal : ProxyOwnershipJournal)

def planRestoration (records : String → Option (Option Configuration)) :
    Except SystemProxyPreferencesError Plan :=
  journal.services.foldlM (planService env records) ⟨records, [], [], false⟩

/-- Whether the settings are as they were before the activation, and in effect. -/
def alreadyRestored (plan : Plan) : Except SystemProxyPreferencesError Bool :=
  if !plan.changed && plan.conflicts.isEmpty then do
    let expected ← restoredValues env journal
    let mismatch ← firstEffectiveMismatch (env.effectiveProxies 1) expected
    .ok (decide (mismatch = none))
  else .ok false

def loadServiceRecords :
    Action Preferences SystemProxyPreferencesError (String → Option (Option Configuration)) := do
  check (require (env.networkSet = true) .currentNetworkSetUnavailable)
  let preferences ← get
  return preferences.services

def applyWithoutCommit : Action Preferences SystemProxyPreferencesError Unit := do
  check env.verifyApply
  check (require (env.applies = true) (.applyFailed env.errorCode))

def commitAndApply (services : String → Option (Option Configuration)) :
    Action Preferences SystemProxyPreferencesError Unit := do
  check env.verifyCommit
  check (require (env.commits = true) (.commitFailed env.errorCode))
  let preferences ← get
  set ({ services, commits := preferences.commits + 1 } : Preferences)
  applyWithoutCommit env

def publishRestoration (plan : Plan) : Action Preferences SystemProxyPreferencesError Bool :=
  if plan.changed then do
    commitAndApply env plan.services
    return true
  else if plan.conflicts.isEmpty then do
    applyWithoutCommit env
    return true
  else return false

def verifyRestoredField (records : String → Option (Option Configuration))
    (restored : String × OwnedSystemProxyField) : Except SystemProxyPreferencesError Unit :=
  match records restored.1 with
  | none => .error (.serviceMissing restored.1)
  | some none => .error (.proxyProtocolMissing restored.1)
  | some (some configuration) => do
    let current ← value (configuration restored.2.field.rawValue) restored.1 restored.2.field
    let original ← value (restored.2.originalValue.map foundationValue) restored.1 restored.2.field
    require (current = original) (.verificationFailed restored.1 restored.2.field)

def publishAndVerify (plan : Plan) : Action Preferences SystemProxyPreferencesError Bool := do
  let didPublish ← publishRestoration env plan
  if didPublish then do
    let records ← loadServiceRecords env
    check (plan.restoredFields.forM (verifyRestoredField records))
    return true
  else return false

def ProxyOwnershipConflict.le (a b : ProxyOwnershipConflict) : Bool :=
  decide (a.serviceID < b.serviceID) ||
    (decide (a.serviceID = b.serviceID) && decide (a.field.rawValue ≤ b.field.rawValue))

/-- The part of `restore` that runs with the preferences locked. -/
def restoreOwned : Action Preferences SystemProxyPreferencesError (ProxyRestoreResult × Bool) := do
  let records ← loadServiceRecords env
  let plan ← check (planRestoration env journal records)
  let already ← check (alreadyRestored env journal plan)
  let result : ProxyRestoreResult := ⟨plan.conflicts.mergeSort ProxyOwnershipConflict.le, []⟩
  if already then return (result, false)
  else do
    let didPublish ← publishAndVerify env plan
    return (result, didPublish)

def withLockedPreferences {α : Type} (env : Environment)
    (operation : Action Preferences SystemProxyPreferencesError α) :
    Action Preferences SystemProxyPreferencesError α := do
  check env.verifyLock
  check env.openPreferences
  check (require (env.locks = true) (.preferencesLockFailed env.errorCode))
  fun preferences ↦
    match operation preferences, env.unlocks with
    | .ok result after, true => .ok result after
    | .ok _ after, false => .error (.preferencesUnlockFailed env.errorCode none) after
    | .error e after, true => .error e after
    | .error e after, false =>
      .error (.preferencesUnlockFailed env.errorCode (some (env.describing e))) after

/-- Whether every conflicting group no longer uses our listener. -/
def allReleased (service : SystemProxyServiceOwnership) (configuration : Configuration) :
    List ProxyOwnershipConflict → Except SystemProxyPreferencesError Bool
  | [] => .ok true
  | conflict :: conflicts => do
    let released ← isReleasedProxyGroup conflict.field service configuration
    if released then allReleased service configuration conflicts else .ok false

def observeReleasedService (records : String → Option (Option Configuration))
    (service : SystemProxyServiceOwnership) :
    Except SystemProxyPreferencesError (Option (List ProxyOwnershipConflict)) :=
  match records service.serviceID with
  | none | some none => .ok none
  | some (some configuration) => do
    let r ← restoration service configuration
    if r.changed then .ok none
    else do
      let released ← allReleased service configuration r.conflicts
      .ok (if released then some r.conflicts else none)

def observeReleasedServices (records : String → Option (Option Configuration)) :
    List SystemProxyServiceOwnership →
      Except SystemProxyPreferencesError (Option (List ProxyOwnershipConflict))
  | [] => .ok (some [])
  | service :: services => do
    let changes ← observeReleasedService records service
    match changes with
    | none => .ok none
    | some changes => do
      let rest ← observeReleasedServices records services
      .ok (rest.map (changes ++ ·))

/-- Whether what the primary service has stored is in effect. -/
def storedInEffect (asked : ℕ) (journal : ProxyOwnershipJournal)
    (records : String → Option (Option Configuration)) :
    Except SystemProxyPreferencesError Bool := do
  let primary ← unwrap env.primaryServiceID .effectiveProxyStateUnavailable
  let service ← unwrap (journal.services.find? (·.serviceID = primary))
    .effectiveProxyStateUnavailable
  let record ← unwrap (records primary) .effectiveProxyStateUnavailable
  let expected ← service.fields.mapM fun owned ↦ do
    let current ← value ((record.getD fun _ ↦ none) owned.field.rawValue) primary owned.field
    .ok (owned.field, current)
  let mismatch ← firstEffectiveMismatch (env.effectiveProxies asked) expected
  .ok (decide (mismatch = none))

def observeReleasedPreferences (asked : ℕ) (journal : ProxyOwnershipJournal) :
    Action Preferences SystemProxyPreferencesError (Option ProxyRestoreResult) := do
  check env.openPreferences
  let records ← loadServiceRecords env
  let changes ← check (observeReleasedServices records journal.services)
  match changes with
  | none => return none
  | some changes => do
    let inEffect ← check (storedInEffect env asked journal records)
    return if inEffect then some ⟨[], changes⟩ else none

def finishRestore (outcome : ProxyRestoreResult × Bool) :
    Action Preferences SystemProxyPreferencesError ProxyRestoreResult :=
  if outcome.2 && outcome.1.isComplete then do
    let expected ← check (restoredValues env journal)
    check (verifyEffectiveValues env.effectiveProxies expected env.polls 2)
    return outcome.1
  else if outcome.1.isComplete then return outcome.1
  else do
    let released ← observeReleasedPreferences env 2 journal
    return released.getD outcome.1

def restore : Action Preferences SystemProxyPreferencesError ProxyRestoreResult := do
  let released ← observeReleasedPreferences env 0 journal
  match released with
  | some result => return result
  | none => do
    let outcome ← withLockedPreferences env (restoreOwned env journal)
    finishRestore env journal outcome

end Restore

end CfwRs.MacProxy
