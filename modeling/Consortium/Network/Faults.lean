import Consortium.Network.Ledger

/-!
A platform whose services can be made to fail, over a ledger that works.
-/

namespace Consortium

/-- What goes wrong. The first four are failing queries. -/
inductive Fault where
  | groupById
  | groupsByName
  | membership
  | networkExists
  /-- A query for a group answers a membership. -/
  | groupIsMembership
  /-- A query for a membership answers a group. -/
  | membershipIsGroup
  /-- Signatures are not asked for. -/
  | collect
  /-- A transaction is turned away before the ledger sees it. -/
  | finalize
  /-- Signatures are lost after they were collected. -/
  | strip
  /-- What was recorded is not reported. -/
  | noOutputs
  /-- Only memberships are reported. -/
  | onlyMembership
deriving DecidableEq

namespace Fault

def all : List Fault :=
  [.groupById, .groupsByName, .membership, .networkExists, .groupIsMembership, .membershipIsGroup,
    .collect, .finalize, .strip, .noOutputs, .onlyMembership]

def name : Fault → String
  | .groupById => "group_by_id"
  | .groupsByName => "groups_by_name"
  | .membership => "membership"
  | .networkExists => "network_exists"
  | .groupIsMembership => "group_is_membership"
  | .membershipIsGroup => "membership_is_group"
  | .collect => "collect"
  | .finalize => "finalize"
  | .strip => "strip"
  | .noOutputs => "no_outputs"
  | .onlyMembership => "only_membership"

def ofName? (text : String) : Option Fault := all.find? fun fault => fault.name = text

def reason (fault : Fault) : String := "injected " ++ fault.name ++ " failure"

end Fault

structure FaultyLedger where
  ledger : Ledger
  faults : List Fault

namespace FaultyLedger

def answer {α : Type} (platform : FaultyLedger) (fault : Fault) (value : α) : Except StoreError α :=
  if fault ∈ platform.faults then .error (.backend fault.reason) else .ok value

def groupById (id : LinearId) (platform : FaultyLedger) :
    Except StoreError (Option StateAndRef) :=
  platform.answer .groupById
    (if .groupIsMembership ∈ platform.faults then
      platform.ledger.states.find? fun recorded => recorded.membership?.isSome
    else platform.ledger.groupById id)

def membership (networkId : NetworkId) (party : Party) (platform : FaultyLedger) :
    Except StoreError (Option StateAndRef) :=
  platform.answer .membership
    (if .membershipIsGroup ∈ platform.faults then
      platform.ledger.states.find? fun recorded => recorded.group?.isSome
    else platform.ledger.membership networkId party)

section Signing

variable [Suite]

def collectSignatures (tx : Transaction) (platform : FaultyLedger) :
    Except NetworkError Transaction × FaultyLedger :=
  if .collect ∈ platform.faults then
    (.error (.submission (.unavailable Fault.collect.reason)), platform)
  else
    let (result, ledger) := Ledger.collectSignatures tx platform.ledger
    (result.map fun signed =>
      if .strip ∈ platform.faults then { signed with signatures := [] } else signed,
      { platform with ledger })

def reportedOutputs (platform : FaultyLedger) (outputs : List StateAndRef) : List StateAndRef :=
  if .noOutputs ∈ platform.faults then []
  else if .onlyMembership ∈ platform.faults then
    outputs.filter fun output => output.membership?.isSome
  else outputs

def finalize (tx : Transaction) (platform : FaultyLedger) :
    Except NetworkError FinalizedRecord × FaultyLedger :=
  if .finalize ∈ platform.faults then
    (.error (.submission (.unavailable Fault.finalize.reason)), platform)
  else
    let (result, ledger) := Ledger.finalize tx platform.ledger
    (result.map fun record => { record with outputs := platform.reportedOutputs record.outputs },
      { platform with ledger })

instance : Platform FaultyLedger where
  groupById := groupById
  groupsByName networkId name platform :=
    platform.answer .groupsByName (platform.ledger.groupsByName networkId name)
  membership := membership
  memberships networkId platform := .ok (platform.ledger.memberships networkId)
  networkExists networkId platform :=
    platform.answer .networkExists (platform.ledger.networkExists networkId)
  collectSignatures := collectSignatures
  finalize := finalize

end Signing

end FaultyLedger

end Consortium
