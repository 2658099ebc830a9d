import CfwRs.Lib.Checked

namespace CfwRs.Updater

open Lib.Checked

abbrev Transaction := BitVec 128

/-- A process by its identity, which is never used again for another one. -/
abbrev Process := ℕ

structure BundleIdentity where
  version : String
  build : UInt64
deriving DecidableEq, Repr

inductive InstallPhase
  | handedOff | decommissioned | swapped | aborted
deriving DecidableEq, Repr

def InstallPhase.debug : InstallPhase → String
  | handedOff => "HandedOff"
  | decommissioned => "Decommissioned"
  | swapped => "Swapped"
  | aborted => "Aborted"

structure InstallRecord where
  transaction : Transaction
  phase : InstallPhase
  original : BundleIdentity
  target : BundleIdentity
  dashboard : Process
  failure : Option String
deriving DecidableEq, Repr

/-- `InstallRecord::handed_off`. The fields `from` and `to` are `original` and `target` here. -/
def InstallRecord.newHandedOff (transaction : Transaction) (original target : BundleIdentity)
    (dashboard : Process) : InstallRecord :=
  { transaction, phase := .handedOff, original, target, dashboard, failure := none }

inductive Recorded
  | absent
  | valid (record : InstallRecord)
  | uninterpretable (detail : String)
deriving DecidableEq, Repr

namespace InstallJournal

def begin (record : InstallRecord) (recorded : Recorded) : Except String InstallRecord := do
  require (record.phase = .handedOff) "an update installation begins with the hand-off"
  match recorded with
  | .absent => .ok record
  | .valid existing =>
    if existing.phase = .handedOff ∧ existing.dashboard = record.dashboard then .ok record
    else .error ("an earlier update installation record in phase " ++ existing.phase.debug ++
      " has not been resolved")
  | .uninterpretable detail => .error detail

def rewrite (transaction : Transaction) (expected : List InstallPhase)
    (change : InstallRecord → InstallRecord) (recorded : Recorded) : Except String InstallRecord :=
  match recorded with
  | .absent => .error "update installation record is missing"
  | .uninterpretable detail => .error detail
  | .valid record =>
    if record.transaction = transaction ∧ record.phase ∈ expected then .ok (change record)
    else .error ("update installation record is " ++ record.phase.debug ++ ", expected [" ++
      ", ".intercalate (expected.map InstallPhase.debug) ++ "] of this transaction")

def advance (transaction : Transaction) (expected next : InstallPhase) (recorded : Recorded) :
    Except String InstallRecord := do
  require ((expected, next) = (.handedOff, .decommissioned) ∨
      (expected, next) = (.decommissioned, .swapped))
    "invalid update installation phase transition"
  rewrite transaction [expected] (fun record ↦ { record with phase := next }) recorded

def abort (transaction : Transaction) (code : String) (recorded : Recorded) :
    Except String InstallRecord :=
  rewrite transaction [.handedOff, .decommissioned]
    (fun record ↦ { record with phase := .aborted, failure := some code }) recorded

def clear (transaction : Transaction) (recorded : Recorded) : Except String Unit :=
  match recorded with
  | .absent => .ok ()
  | .uninterpretable detail => .error detail
  | .valid record =>
    require (record.transaction = transaction) "a different update installation record is present"

variable {transaction : Transaction} {recorded : Recorded} {record written : InstallRecord}

theorem begin_eq_ok (h : begin record recorded = .ok written) :
    written = record ∧ record.phase = .handedOff ∧ (recorded = .absent ∨ ∃ existing,
      recorded = .valid existing ∧ existing.phase = .handedOff ∧
        existing.dashboard = record.dashboard) := by
  simp only [begin, ok_iff] at h
  obtain ⟨_, hphase, h⟩ := h
  cases recorded with
  | absent =>
    cases h
    exact ⟨rfl, hphase, .inl rfl⟩
  | uninterpretable detail => cases h
  | valid existing =>
    dsimp only at h
    split at h
    · next hown =>
      cases h
      exact ⟨rfl, hphase, .inr ⟨existing, rfl, hown⟩⟩
    · cases h

theorem rewrite_eq_ok {expected change}
    (h : rewrite transaction expected change recorded = .ok written) :
    ∃ record, recorded = .valid record ∧ record.transaction = transaction ∧
      record.phase ∈ expected ∧ written = change record := by
  cases recorded with
  | absent => cases h
  | uninterpretable detail => cases h
  | valid record =>
    simp only [rewrite] at h
    split at h
    · next hrecord =>
      cases h
      exact ⟨record, rfl, hrecord.1, hrecord.2, rfl⟩
    · cases h

theorem advance_eq_ok {expected next}
    (h : advance transaction expected next recorded = .ok written) :
    ∃ record, recorded = .valid record ∧ record.transaction = transaction ∧
      record.phase = expected ∧ written = { record with phase := next } := by
  simp only [advance, bind_eq_ok] at h
  obtain ⟨_, -, h⟩ := h
  obtain ⟨record, hrecord, htransaction, hphase, hwritten⟩ := rewrite_eq_ok h
  exact ⟨record, hrecord, htransaction, by simpa using hphase, hwritten⟩

theorem abort_eq_ok {code} (h : abort transaction code recorded = .ok written) :
    ∃ record, recorded = .valid record ∧ record.transaction = transaction ∧
      (record.phase = .handedOff ∨ record.phase = .decommissioned) ∧
      written = { record with phase := .aborted, failure := some code } := by
  obtain ⟨record, hrecord, htransaction, hphase, hwritten⟩ := rewrite_eq_ok h
  exact ⟨record, hrecord, htransaction, by simpa using hphase, hwritten⟩

end InstallJournal

inductive InstallOutcome
  | none
  | installed (version : String)
  | failed (version code : String)
deriving DecidableEq, Repr

def classify (record : InstallRecord) (runningVersion : String) : InstallOutcome :=
  if runningVersion = record.target.version then
    match record.phase with
    | .aborted => .none
    | .handedOff | .decommissioned | .swapped => .installed record.target.version
  else if runningVersion ≠ record.original.version then .none
  else
    match record.phase with
    | .aborted => .failed record.target.version (record.failure.getD "")
    | .handedOff | .decommissioned => .failed record.target.version "installer_interrupted"
    | .swapped => .failed record.target.version "installed_version_reverted"

end CfwRs.Updater
