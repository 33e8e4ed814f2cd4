import DeviceConsole.Target.Field

/-! Discovery profiles: targets paired with the credential profiles to try against them, and the
draft that makes or changes one. -/
namespace DeviceConsole

/-- A profile as the backend stores it. -/
structure DiscoveryProfile where
  id : Int64
  targets : Targets
  credentialIds : List Int64
  isCidr : Bool
deriving DecidableEq

/-- A validated draft; the id is set when a stored profile is changed. -/
structure DiscoverySubmission where
  id : Option Int64
  targets : Targets
  credentialIds : List Int64
deriving DecidableEq

structure DiscoveryDraft where
  editing : Option Int64 := none
  targets : TargetField := {}
  credentialIds : List Int64 := []
deriving DecidableEq, Inhabited

namespace DiscoveryDraft

/-- A blank draft for a new profile, in list mode. -/
def new : DiscoveryDraft := {}

/-- A draft whose target text is that of the stored targets. -/
def ofProfile (p : DiscoveryProfile) : DiscoveryDraft :=
  let mode := match p.targets with
    | .addresses _ => TargetMode.list
    | .block _ => TargetMode.cidr
  { editing := some p.id
    targets := .withText mode p.targets.text
    credentialIds := p.credentialIds }

def setMode (d : DiscoveryDraft) (mode : TargetMode) : DiscoveryDraft :=
  { d with targets := d.targets.setMode mode }

def editTargets (d : DiscoveryDraft) (text : String) : DiscoveryDraft :=
  { d with targets := d.targets.edit text }

/-- Repetitions are kept, so that submitting can report them. -/
def setCredentials (d : DiscoveryDraft) (ids : List Int64) : DiscoveryDraft :=
  { d with credentialIds := ids }

/-- Removes the first occurrence, or appends. -/
def toggleCredential (d : DiscoveryDraft) (id : Int64) : DiscoveryDraft :=
  { d with
    credentialIds :=
      if id ∈ d.credentialIds then d.credentialIds.erase id else d.credentialIds ++ [id] }

/-- No target error and at least one credential profile. -/
def canSubmit (d : DiscoveryDraft) : Bool :=
  d.targets.error.isNone && !d.credentialIds.isEmpty

/-- The first id that occurs at an earlier place too. -/
def firstRepeated? (seen : List Int64) : List Int64 → Option Int64
  | [] => none
  | id :: ids => if id ∈ seen then some id else firstRepeated? (id :: seen) ids

/-- Credentials are checked before targets. -/
def submit (d : DiscoveryDraft) : Except ConsoleError DiscoverySubmission :=
  if d.credentialIds.isEmpty then .error .noCredentials
  else match firstRepeated? [] d.credentialIds with
    | some id => .error (.repeatedCredential id)
    | none =>
        match d.targets.resolve with
        | .error e => .error e
        | .ok targets =>
            if targets.size = 0 then
              .error (.invalidInput "at least one target address is required")
            else .ok { id := d.editing, targets, credentialIds := d.credentialIds }

end DiscoveryDraft

/-- A row of the profile listing. -/
structure DiscoverySummary where
  id : Int64
  targets : String
  targetCount : Nat
  credentialIds : List Int64
  isCidr : Bool
deriving DecidableEq, Repr

def DiscoveryProfile.summary (p : DiscoveryProfile) : DiscoverySummary :=
  { id := p.id, targets := p.targets.text, targetCount := p.targets.size
    credentialIds := p.credentialIds, isCidr := p.isCidr }

end DeviceConsole
